import FormRules.Json.Reader

/-!
# Successful reads

A step reads a text as a value if it succeeds from every place and stops in
front of what follows.  The rules here take a decoder apart along its binds;
places never matter to the value.
-/

namespace FormRules.Json.Decode

variable {α β : Type}

/-! ## Reads of a step -/

/-- From any place, a step reads the start of a text as a value and leaves the rest. -/
def Reads (step : Decode α) (cs : List Char) (a : α) (rest : List Char) : Prop :=
  ∀ p, ∃ q, step ⟨cs, p⟩ = .ok a ⟨rest, q⟩

theorem Reads.pure (a : α) (cs : List Char) : Reads (Pure.pure a) cs a cs := by
  intro p
  exact ⟨p, rfl⟩

theorem Reads.bind {step : Decode α} {next : α → Decode β} {cs mid rest : List Char} {a : α}
    {b : β} (h : Reads step cs a mid) (hn : Reads (next a) mid b rest) :
    Reads (step >>= next) cs b rest := by
  intro p
  obtain ⟨q, hq⟩ := h p
  obtain ⟨r, hr⟩ := hn q
  refine ⟨r, ?_⟩
  change EStateM.bind step next ⟨cs, p⟩ = _
  unfold EStateM.bind
  rw [hq]
  exact hr

theorem Reads.map {step : Decode α} {cs rest : List Char} {a : α} (f : α → β)
    (h : Reads step cs a rest) : Reads (f <$> step) cs (f a) rest := by
  intro p
  obtain ⟨q, hq⟩ := h p
  refine ⟨q, ?_⟩
  change EStateM.map f step ⟨cs, p⟩ = _
  unfold EStateM.map
  rw [hq]

theorem Reads.placed {step : Decode α} {cs rest : List Char} {a : α}
    (h : Reads step cs a rest) : Reads (Decode.placed step) cs a rest := by
  intro p
  obtain ⟨q, hq⟩ := h p
  refine ⟨q, ?_⟩
  unfold Decode.placed
  rw [hq]

theorem Reads.within {step : Decode α} {cs rest : List Char} {a : α} (segment : Segment)
    (h : Reads step cs a rest) : Reads (Decode.within segment step) cs a rest := by
  intro p
  obtain ⟨q, hq⟩ := h p
  refine ⟨q, ?_⟩
  unfold Decode.within
  rw [hq]

theorem Reads.closing {close : Decode Unit} {body : Decode α} {cs mid rest : List Char} {a : α}
    (h : Reads body cs a mid) (hc : Reads close mid () rest) :
    Reads (Decode.closing close body) cs a rest := by
  intro p
  obtain ⟨q, hq⟩ := h p
  obtain ⟨r, hr⟩ := hc q
  refine ⟨r, ?_⟩
  unfold Decode.closing
  rw [hq]
  simp only
  rw [hr]

theorem Reads.run {step : Decode α} {cs rest : List Char} {a : α} (h : Reads step cs a rest) :
    step.run cs = .ok a := by
  obtain ⟨q, hq⟩ := h ⟨1, 0⟩
  unfold Decode.run Cursor.start
  rw [hq]

/-! ## Reads of single characters -/

theorem reads_peek (cs : List Char) : Reads peek cs cs.head? cs := by
  intro p
  exact ⟨p, rfl⟩

theorem reads_remaining (cs : List Char) : Reads remaining cs cs.length cs := by
  intro p
  exact ⟨p, rfl⟩

theorem reads_advance (c : Char) (cs : List Char) : Reads advance (c :: cs) () cs := by
  intro p
  exact ⟨p.after c, rfl⟩

theorem Reads.advance {next : Unit → Decode β} {c : Char} {cs rest : List Char} {b : β}
    (h : Reads (next ()) cs b rest) : Reads (Decode.advance >>= next) (c :: cs) b rest :=
  (reads_advance c cs).bind h

theorem Reads.peek {next : Option Char → Decode β} {cs rest : List Char} {b : β}
    (h : Reads (next cs.head?) cs b rest) : Reads (Decode.peek >>= next) cs b rest :=
  (reads_peek cs).bind h

theorem reads_word (w rest : List Char) : Reads (word w) (w ++ rest) () rest := by
  induction w with
  | nil => exact Reads.pure () rest
  | cons c w ih =>
      unfold word
      apply Reads.peek
      simp only [List.cons_append, List.head?_cons, if_true]
      exact Reads.advance ih

/-! ## White space -/

def Blank (gap : List Char) : Prop := ∀ c ∈ gap, isSpace c = true

theorem blank_nil : Blank [] := by
  intro c hc
  cases hc

theorem Blank.append {gap more : List Char} (hg : Blank gap) (hm : Blank more) :
    Blank (gap ++ more) := by
  intro c hc
  exact (List.mem_append.1 hc).elim (hg c) (hm c)

/-- There is no white space before a text that starts with another character. -/
theorem Blank.eq_nil {gap cs : List Char} (hg : Blank gap) {c : Char} (hc : isSpace c = false)
    (h : (gap ++ cs).head? = some c) : gap = [] := by
  cases gap with
  | nil => rfl
  | cons g gap =>
      cases h
      have hs := hg c List.mem_cons_self
      rw [hc] at hs
      cases hs

theorem afterSpace_append {gap cs : List Char} (hg : Blank gap)
    (hc : ∀ c ∈ cs.head?, isSpace c = false) (p : Position) :
    ∃ q, afterSpace (gap ++ cs) p = ⟨cs, q⟩ := by
  induction gap generalizing p with
  | nil =>
      cases cs with
      | nil => exact ⟨p, rfl⟩
      | cons c cs =>
          have hs := hc c rfl
          refine ⟨p, ?_⟩
          simp [afterSpace, hs]
  | cons g gap ih =>
      have hs := hg g List.mem_cons_self
      obtain ⟨q, hq⟩ := ih (fun c h => hg c (List.mem_cons_of_mem g h)) (p.after g)
      refine ⟨q, ?_⟩
      simp only [List.cons_append, afterSpace, hs, if_true]
      exact hq

theorem reads_peekToken {gap cs : List Char} {c : Char} (hg : Blank gap) (hc : isSpace c = false) :
    Reads peekToken (gap ++ c :: cs) (some c) (c :: cs) := by
  intro p
  have hs : ∀ d ∈ (c :: cs).head?, isSpace d = false := by
    simpa using hc
  obtain ⟨q, hq⟩ := afterSpace_append hg hs p
  refine ⟨q, ?_⟩
  simp only [peekToken, hq, List.head?_cons]

/-- White space is passed before the look at what follows. -/
theorem Reads.token {next : Option Char → Decode β} {gap cs rest : List Char} {c : Char} {b : β}
    (hg : Blank gap) (hc : isSpace c = false) (h : Reads (next (some c)) (c :: cs) b rest) :
    Reads (peekToken >>= next) (gap ++ c :: cs) b rest :=
  (reads_peekToken hg hc).bind h

end FormRules.Json.Decode
