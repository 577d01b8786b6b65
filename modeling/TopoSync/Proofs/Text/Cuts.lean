import Mathlib.Data.List.Basic
import TopoSync.Text.Utf8

/-!
# Text that is cut off

When the bytes of a text are cut off and read again, the characters before the cut come back, and one
replacement for the character that the cut goes through, if it goes through one.
-/

namespace TopoSync

namespace Utf8

/-- The characters read from some bytes and the character left unfinished. -/
def reach : Option Partial → Bytes → List Char × Option Partial
  | unfinished, [] => ([], unfinished)
  | unfinished, b :: rest =>
      let step := lossyStep unfinished b
      (step.1 ++ (reach step.2 rest).1, (reach step.2 rest).2)

theorem lossyFrom_cons (unfinished : Option Partial) (b : UInt8) (rest : Bytes) :
    lossyFrom unfinished (b :: rest) =
      (lossyStep unfinished b).1 ++ lossyFrom (lossyStep unfinished b).2 rest := by
  cases unfinished <;> rfl

/-- Reading goes on where it stands. -/
theorem lossyFrom_append (unfinished : Option Partial) (bytes more : Bytes) :
    lossyFrom unfinished (bytes ++ more) =
      (reach unfinished bytes).1 ++ lossyFrom (reach unfinished bytes).2 more := by
  induction bytes generalizing unfinished with
  | nil => rfl
  | cons b rest ih =>
      rw [List.cons_append, lossyFrom_cons, ih, reach, List.append_assoc]

/-- A byte gives a character or leaves one unfinished. -/
theorem lossyStep_cases (unfinished : Option Partial) (b : UInt8) :
    (lossyStep unfinished b).1 ≠ [] ∨ (lossyStep unfinished b).2 ≠ none := by
  have each : ∀ progress : Progress, progress.split.1 ≠ [] ∨ progress.split.2 ≠ none := by
    rintro (c | p)
    · exact .inl (List.cons_ne_nil _ _)
    · exact .inr (Option.some_ne_none _)
  cases unfinished with
  | none =>
      simp only [lossyStep]
      cases first? b with
      | none => exact .inl (List.cons_ne_nil _ _)
      | some progress => exact each progress
  | some p =>
      simp only [lossyStep]
      cases p.next? b with
      | none => exact .inl (List.cons_ne_nil _ _)
      | some progress => exact each progress

/-- Only nothing is read as nothing. -/
theorem lossyFrom_eq_nil {unfinished : Option Partial} {bytes : Bytes}
    (nothing : lossyFrom unfinished bytes = []) : unfinished = none ∧ bytes = [] := by
  induction bytes generalizing unfinished with
  | nil =>
      cases unfinished with
      | none => exact ⟨rfl, rfl⟩
      | some p => cases nothing
  | cons b rest ih =>
      rw [lossyFrom_cons, List.append_eq_nil_iff] at nothing
      rcases lossyStep_cases unfinished b with char | owing
      · exact absurd nothing.1 char
      · exact absurd (ih nothing.2).1 owing

/-- The beginning of a character is read as one replacement. -/
theorem lossyFrom_take_encodeChar {c : Char} {n : Nat} (some : 0 < n)
    (part : n < (encodeChar c).length) : lossyFrom none ((encodeChar c).take n) = [replacement] := by
  have rest : (encodeChar c).drop n ≠ [] := by
    rw [ne_eq, List.drop_eq_nil_iff]
    omega
  have begun : (encodeChar c).take n ≠ [] := by
    rw [ne_eq, List.take_eq_nil_iff, not_or]
    refine ⟨by omega, fun empty => ?_⟩
    rw [empty] at part
    cases part
  -- The character comes as a whole, so none comes before its last byte.
  have whole : lossyFrom none ((encodeChar c).take n ++ (encodeChar c).drop n) = [c] := by
    have alone := lossyFrom_encodeChar c []
    rw [List.append_nil] at alone
    rw [List.take_append_drop, alone]
    rfl
  rw [lossyFrom_append] at whole
  have silent : (reach none ((encodeChar c).take n)).1 = [] := by
    rcases List.append_eq_singleton_iff.mp whole with ⟨none, _⟩ | ⟨_, nothing⟩
    · exact none
    · exact absurd (lossyFrom_eq_nil nothing).2 rest
  have read := lossyFrom_append none ((encodeChar c).take n) []
  rw [List.append_nil, silent, List.nil_append] at read
  rw [read]
  cases left : (reach none ((encodeChar c).take n)).2 with
  | some p => rfl
  | none =>
      rw [left] at read
      exact absurd (lossyFrom_eq_nil read).2 begun

/-- Characters whose bytes are cut off after some bytes: they come back if they fit, and otherwise
those before the cut come back, with a replacement if the cut goes through a character. -/
theorem lossyFrom_take (cs : List Char) (n : Nat) :
    (cs.flatMap encodeChar).length ≤ n ∧ lossyFrom none ((cs.flatMap encodeChar).take n) = cs ∨
    ∃ u c v, cs = u ++ c :: v ∧ (u.flatMap encodeChar).length ≤ n ∧
      n < (u.flatMap encodeChar).length + (encodeChar c).length ∧
      lossyFrom none ((cs.flatMap encodeChar).take n) =
        if (u.flatMap encodeChar).length = n then u else u ++ [replacement] := by
  induction cs generalizing n with
  | nil => exact .inl ⟨Nat.zero_le n, by simp [lossyFrom]⟩
  | cons c rest ih =>
      rw [List.flatMap_cons]
      by_cases fits : (encodeChar c).length ≤ n
      · obtain ⟨m, rfl⟩ := Nat.exists_eq_add_of_le fits
        have first : lossyFrom none ((encodeChar c ++ rest.flatMap encodeChar).take
            ((encodeChar c).length + m)) =
              c :: lossyFrom none ((rest.flatMap encodeChar).take m) := by
          rw [List.take_length_add_append, lossyFrom_encodeChar]
        rw [first, List.length_append]
        rcases ih m with ⟨short, same⟩ | ⟨u, d, v, rfl, before, through, same⟩
        · exact .inl ⟨by omega, by rw [same]⟩
        · refine .inr ⟨c :: u, d, v, rfl, ?_, ?_, ?_⟩
          · rw [List.flatMap_cons, List.length_append]
            omega
          · rw [List.flatMap_cons, List.length_append]
            omega
          · rw [same, List.flatMap_cons, List.length_append]
            simp only [Nat.add_left_cancel_iff]
            split <;> rfl
      · have part : n < (encodeChar c).length := Nat.not_le.mp fits
        have inside : (encodeChar c ++ rest.flatMap encodeChar).take n = (encodeChar c).take n :=
          List.take_append_of_le_length (Nat.le_of_lt part)
        refine .inr ⟨[], c, rest, rfl, Nat.zero_le n, by simpa using part, ?_⟩
        rw [inside]
        cases n with
        | zero => rfl
        | succ n => exact lossyFrom_take_encodeChar (Nat.succ_pos n) part

theorem encode_append (s t : String) : encode (s ++ t) = encode s ++ encode t := by
  simp [encode]

theorem encode_push (s : String) (c : Char) : encode (s.push c) = encode s ++ encodeChar c := by
  simp [encode]

/-- A text whose bytes are cut off after some bytes: it comes back if it fits, and otherwise what is
before the cut comes back, with a replacement if the cut goes through a character. -/
theorem lossy_take_encode (text : String) (n : Nat) :
    (encode text).length ≤ n ∧ lossy ((encode text).take n) = text ∨
    ∃ (s rest : String) (c : Char), text = s.push c ++ rest ∧ (encode s).length ≤ n ∧
      n < (encode (s.push c)).length ∧
      lossy ((encode text).take n) =
        if (encode s).length = n then s else s.push replacement := by
  rcases lossyFrom_take text.toList n with ⟨fits, same⟩ | ⟨u, c, v, chars, before, through, same⟩
  · exact .inl ⟨fits, by rw [lossy, encode, same, String.ofList_toList]⟩
  · refine .inr ⟨String.ofList u, String.ofList v, c, ?_, ?_, ?_, ?_⟩
    · exact String.toList_injective (by simp [chars])
    · rwa [encode_ofList]
    · rwa [encode_push, encode_ofList, List.length_append]
    · rw [lossy, encode, same, encode_ofList]
      split <;> simp

/-- A text is read back from its bytes cut off after some bytes exactly if it fits, or ends with a
replacement that the cut goes through. -/
theorem lossy_take_encode_eq_iff (text : String) (n : Nat) :
    lossy ((encode text).take n) = text ↔
      (encode text).length ≤ n ∨
        ∃ s : String, text = s.push replacement ∧ (encode s).length < n := by
  rcases lossy_take_encode text n with ⟨fits, same⟩ | ⟨s, rest, c, rfl, before, through, cut⟩
  · exact iff_of_true same (.inl fits)
  · rw [cut]
    constructor
    · intro same
      split at same
      · have length := congrArg String.length same
        simp only [String.length_append, String.length_push] at length
        omega
      · rename_i inside
        refine .inr ⟨s, same.symm, ?_⟩
        omega
    · rintro (fits | ⟨t, ends, short⟩)
      · rw [encode_append, List.length_append] at fits
        omega
      · have chars : s.toList ++ c :: rest.toList = t.toList ++ [replacement] := by
          simpa using congrArg String.toList ends
        -- What is after the cut character would lie before the replacement, and thus before the cut.
        rcases List.eq_nil_or_concat rest.toList with none | ⟨v, d, more⟩
        · rw [none] at chars
          obtain rfl := String.toList_injective (List.append_inj' chars rfl).1
          rw [if_neg (by omega), ends]
        · rw [more, List.concat_eq_append, ← List.cons_append, ← List.append_assoc] at chars
          have longer : (encode (s.push c)).length ≤ (encode t).length := by
            rw [encode_push, encode, encode, ← (List.append_inj' chars rfl).1]
            simp
          omega

end Utf8

end TopoSync
