/-!
# Blank characters and trimming

White space in the Unicode sense, and the trimming of texts by it.
-/

namespace FormRules.Text

/-! ## White space -/

def isBlank (c : Char) : Bool :=
  let n := c.toNat
  (9 ≤ n && n ≤ 13) || n == 0x20 || n == 0x85 || n == 0xA0 || n == 0x1680 ||
    (0x2000 ≤ n && n ≤ 0x200A) || n == 0x2028 || n == 0x2029 || n == 0x202F ||
    n == 0x205F || n == 0x3000

/-! ## Trimming -/

def trimStart (cs : List Char) : List Char :=
  cs.dropWhile isBlank

def trimEnd (cs : List Char) : List Char :=
  (cs.reverse.dropWhile isBlank).reverse

def trim (cs : List Char) : List Char :=
  trimEnd (trimStart cs)

@[simp] theorem trim_nil : trim [] = [] := rfl

def trimText (s : String) : String :=
  String.ofList (trim s.toList)

/-- Whether a text holds blank characters only. -/
def allBlank (cs : List Char) : Bool :=
  cs.all isBlank

theorem trim_of_allBlank {cs : List Char} (h : allBlank cs = true) : trim cs = [] := by
  have hs : trimStart cs = [] := by
    induction cs with
    | nil => rfl
    | cons c cs ih =>
        simp only [allBlank, List.all_cons, Bool.and_eq_true] at h
        simpa [trimStart, h.1] using ih h.2
  rw [trim, hs]
  rfl

/-! ## ASCII classes and case -/

def isAsciiLetter (c : Char) : Bool :=
  (97 ≤ c.toNat && c.toNat ≤ 122) || (65 ≤ c.toNat && c.toNat ≤ 90)

def isAsciiDigit (c : Char) : Bool :=
  48 ≤ c.toNat && c.toNat ≤ 57

/-- The lower-case form of an ASCII capital; every other character is itself. -/
def lowerAscii (c : Char) : Char :=
  if 65 ≤ c.toNat && c.toNat ≤ 90 then Char.ofNat (c.toNat + 32) else c

def lowerAsciiText (s : String) : String :=
  String.ofList (s.toList.map lowerAscii)

def hexValue? (c : Char) : Option Nat :=
  let n := c.toNat
  if 48 ≤ n && n ≤ 57 then some (n - 48)
  else if 97 ≤ n && n ≤ 102 then some (n - 87)
  else if 65 ≤ n && n ≤ 70 then some (n - 55)
  else none

def digitValue (c : Char) : Nat :=
  c.toNat - 48

end FormRules.Text
