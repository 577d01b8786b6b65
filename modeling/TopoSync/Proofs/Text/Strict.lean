import TopoSync.Proofs.Text.Cuts

/-!
# Text read strictly

What is read of some bytes as one character other than a replacement has been read without a fault, so
strict reading takes the same bytes and gives the same character.  The bytes of a text are therefore
read strictly as this text.
-/

namespace TopoSync

namespace Utf8

/-- Bytes that are read as one character, which is not a replacement, are well-formed. -/
theorem strictFrom_of_lossyFrom {unfinished : Option Partial} {bytes : Bytes} {c : Char}
    (read : lossyFrom unfinished bytes = [c]) (sound : c ≠ replacement) (rest : Bytes) :
    strictFrom unfinished (bytes ++ rest) = (strictFrom none rest).map (c :: ·) := by
  induction bytes generalizing unfinished with
  | nil =>
      cases unfinished with
      | none => cases read
      | some p => exact absurd (List.singleton_inj.mp read).symm sound
  | cons b bytes ih =>
      have complete : ∀ d, d :: lossyFrom none bytes = [c] →
          (strictFrom none (bytes ++ rest)).map (d :: ·) = (strictFrom none rest).map (c :: ·) := by
        intro d read
        obtain ⟨same, nothing⟩ := List.cons.inj read
        rw [same, (lossyFrom_eq_nil nothing).2, List.nil_append]
      have faulty : ∀ more, replacement :: more ≠ [c] := fun more same =>
        sound (List.cons.inj same).1.symm
      rw [lossyFrom_cons] at read
      cases unfinished with
      | none =>
          simp only [List.cons_append, strictFrom, lossyStep] at read ⊢
          cases first : first? b with
          | none =>
              rw [first] at read
              exact absurd read (faulty _)
          | some p =>
              rw [first] at read
              cases p with
              | char d => exact complete d read
              | owing p => exact ih read
      | some q =>
          simp only [List.cons_append, strictFrom, lossyStep] at read ⊢
          cases next : q.next? b with
          | none =>
              rw [next] at read
              exact absurd read (faulty _)
          | some p =>
              rw [next] at read
              cases p with
              | char d => exact complete d read
              | owing p => exact ih read

/-- Strict reading of the bytes of a character gives the character and goes on after it. -/
theorem strictFrom_encodeChar (c : Char) (rest : Bytes) :
    strictFrom none (encodeChar c ++ rest) = (strictFrom none rest).map (c :: ·) := by
  by_cases sound : c = replacement
  · subst sound
    rfl
  · have read := lossyFrom_encodeChar c []
    rw [List.append_nil] at read
    exact strictFrom_of_lossyFrom read sound rest

/-- The bytes of a text are well-formed. -/
theorem strict?_encode (text : String) : strict? (encode text) = some text := by
  have chars : ∀ cs : List Char, strictFrom none (cs.flatMap encodeChar) = some cs := by
    intro cs
    induction cs with
    | nil => rfl
    | cons c rest ih => rw [List.flatMap_cons, strictFrom_encodeChar, ih, Option.map_some]
  rw [strict?, encode, chars, Option.map_some, String.ofList_toList]

end Utf8

end TopoSync
