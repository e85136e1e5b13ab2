import FormRules.Pattern.Expr

/-!
# Footprint of an expression

How large the automaton of an expression is.  Patterns are bounded by this
size, in bytes, for the automaton that reads a text forwards and for the one
that reads it backwards.  Both read texts in UTF-8, byte by byte.
-/

namespace FormRules.Pattern

/-! ## Ranges of bytes -/

abbrev ByteRange := Nat × Nat

def utf8Bytes (n : Nat) : List Nat :=
  if n < 0x80 then [n]
  else if n < 0x800 then [0xC0 + n / 64, 0x80 + n % 64]
  else if n < 0x10000 then [0xE0 + n / 4096, 0x80 + n / 64 % 64, 0x80 + n % 64]
  else [0xF0 + n / 262144, 0x80 + n / 4096 % 64, 0x80 + n / 64 % 64, 0x80 + n % 64]

/-- Where a range of code points has to be cut, if anywhere: the last member of the first piece. -/
def cut? (lo hi : Nat) : Option Nat :=
  let atLength := [0x7F, 0x7FF, 0xFFFF].find? fun top => lo ≤ top && top < hi
  let atBlock (m : Nat) : Option Nat :=
    if lo / m = hi / m then none
    else if lo % m ≠ 0 then some (lo / m * m + (m - 1))
    else if hi % m ≠ m - 1 then some (hi / m * m - 1)
    else none
  if lo < 0xE000 && 0xD7FF < hi then (if lo ≤ 0xD7FF then some 0xD7FF else some 0xDFFF)
  else atLength <|> (if hi < 0x80 then none else atBlock 64 <|> atBlock 4096 <|> atBlock 262144)

/-- The sequences of byte ranges for a range of code points; surrogates have none. -/
def byteSequences : (fuel lo hi : Nat) → List (List ByteRange)
  | 0, _, _ => []
  | fuel + 1, lo, hi =>
    if 0xD800 ≤ lo && hi ≤ 0xDFFF then []
    else
      match cut? lo hi with
      | some mid => byteSequences fuel lo mid ++ byteSequences fuel (mid + 1) hi
      | none => [(utf8Bytes lo).zip (utf8Bytes hi)]

def CharSet.byteSequences (s : CharSet) : List (List ByteRange) :=
  s.ranges.flatMap fun r => Pattern.byteSequences 32 r.1 r.2

/-- Group sequences that follow each other and start with the same range. -/
def groupByFirst : List (List ByteRange) → List (ByteRange × List (List ByteRange))
  | [] => []
  | [] :: rest => groupByFirst rest
  | (r :: tail) :: rest =>
    match groupByFirst rest with
    | (r', tails) :: groups =>
      if r = r' then (r, tail :: tails) :: groups else (r, [tail]) :: (r', tails) :: groups
    | [] => [(r, [tail])]

/-- The nodes below one that has to read some sequences, itself included. -/
def nodes : Nat → List (List ByteRange) → List (List (List ByteRange))
  | 0, _ => []
  | fuel + 1, seqs =>
    if seqs = [[]] then []
    else seqs :: (groupByFirst seqs).flatMap fun g => nodes fuel g.2

def beginnings (seq : List ByteRange) : List (List ByteRange) :=
  (List.range seq.length).map fun k => seq.take (k + 1)

/-! ## Sizes -/

def stateSize : Nat := 32

/-- The size of a set of characters. -/
def CharSet.footprint (backwards : Bool) (s : CharSet) : Nat :=
  match s.ranges with
  | [(lo, hi)] =>
    if lo = hi then stateSize * (utf8Bytes lo).length else general
  | _ => general
where
  general : Nat :=
    if s.isAscii then 2 * stateSize + 8 * s.ranges.length
    else
      let seqs := s.byteSequences
      if backwards then
        let begun := (seqs.flatMap beginnings).eraseDups
        2 * stateSize + 4 * seqs.length + stateSize * begun.length
      else
        (nodes 5 seqs).eraseDups.foldl
          (fun total node => total + stateSize + 8 * (groupByFirst node).length) stateSize

mutual

/-- Whether an expression matches the empty text somewhere. -/
def Expr.mayBeEmpty : Expr → Bool
  | .empty | .condition _ => true
  | .chars _ => false
  | .concat es => Expr.allMayBeEmpty es
  | .alt es => Expr.anyMayBeEmpty es
  | .repeated least _ body => least = 0 || body.mayBeEmpty
  | .capture body => body.mayBeEmpty

def Expr.allMayBeEmpty : List Expr → Bool
  | [] => true
  | e :: es => e.mayBeEmpty && Expr.allMayBeEmpty es

def Expr.anyMayBeEmpty : List Expr → Bool
  | [] => false
  | e :: es => e.mayBeEmpty || Expr.anyMayBeEmpty es

end

def forkSize : Nat := stateSize + 8

mutual

/-- The size of the automaton of an expression. -/
def Expr.footprint (backwards : Bool) : Expr → Nat
  | .empty => stateSize
  | .condition _ => stateSize
  | .chars s => s.footprint backwards
  | .concat es => Expr.totalFootprint backwards es
  | .alt es => 2 * stateSize + 4 * es.length + Expr.totalFootprint backwards es
  | .capture body => (if backwards then 0 else 2 * stateSize) + body.footprint backwards
  | .repeated least most body =>
    let size := body.footprint backwards
    match most with
    | none =>
      if least = 0 then
        if body.mayBeEmpty then size + 2 * forkSize + stateSize else size + forkSize
      else least * size + forkSize
    | some most =>
      if least = most then least * size
      else least * size + stateSize + (most - least) * (size + forkSize)

def Expr.totalFootprint (backwards : Bool) : List Expr → Nat
  | [] => 0
  | e :: es => e.footprint backwards + Expr.totalFootprint backwards es

end

def footprintLimit : Nat := 10485760

def Expr.isSmall (e : Expr) : Bool :=
  e.footprint false ≤ footprintLimit && e.footprint true ≤ footprintLimit

end FormRules.Pattern
