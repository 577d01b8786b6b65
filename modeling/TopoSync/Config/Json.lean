import TopoSync.Text.Numeral

/-!
# JSON

A JSON text is read in two steps: characters into tokens, tokens into a value.  The second step keeps
the containers that are still open in a list, so values may be nested to any depth.  Texts keep their
escapes until somebody asks for the characters, because an escape may be half of a surrogate pair
and then stands for nothing.
-/

namespace TopoSync

/-- A character of a text as it is written. -/
inductive Piece
  | char (c : Char)
  /-- A sixteen bit unit, written as an escape. -/
  | unit (n : Nat)
deriving DecidableEq, Repr

namespace Piece

/-- The characters of a text.  A unit that is half of a pair needs its other half. -/
def join? : List Piece → Option (List Char)
  | [] => some []
  | char c :: rest => (join? rest).map (c :: ·)
  | unit n :: rest =>
      if n < 0xD800 ∨ 0xDFFF < n then (join? rest).map (Char.ofNat n :: ·)
      else if 0xDBFF < n then none
      else
        match rest with
        | unit m :: rest =>
            if 0xDC00 ≤ m ∧ m ≤ 0xDFFF then
              (join? rest).map (Char.ofNat (0x10000 + (n - 0xD800) * 0x400 + (m - 0xDC00)) :: ·)
            else none
        | _ => none

end Piece

/-- The smallest parts of a JSON text. -/
inductive Token
  | openArray
  | closeArray
  | openObject
  | closeObject
  | comma
  | colon
  | null
  | bool (b : Bool)
  /-- A number; its value is kept if it is written as a natural number. -/
  | number (natural : Option Nat)
  | text (pieces : List Piece)
deriving DecidableEq, Repr

namespace Token

/-- Whether a character may stand between tokens. -/
def isBlank (c : Char) : Bool :=
  c == ' ' || c == '\n' || c == '\t' || c == '\r'

/-- The character that an escape of one letter stands for. -/
def escaped? (c : Char) : Option Char :=
  match c with
  | '"' => some '"'
  | '\\' => some '\\'
  | '/' => some '/'
  | 'b' => some (Char.ofNat 8)
  | 'f' => some (Char.ofNat 12)
  | 'n' => some '\n'
  | 'r' => some '\r'
  | 't' => some '\t'
  | _ => none

/-- The rest of a text up to its closing quote, and what follows it. -/
def scanText : List Char → Option (List Piece × List Char)
  | [] => none
  | '"' :: rest => some ([], rest)
  | '\\' :: 'u' :: a :: b :: c :: d :: rest => do
      let n ← Numeral.value? 16 [a, b, c, d]
      let (pieces, rest) ← scanText rest
      return (.unit n :: pieces, rest)
  | '\\' :: e :: rest => do
      let c ← escaped? e
      let (pieces, rest) ← scanText rest
      return (.char c :: pieces, rest)
  | c :: rest =>
      if c.toNat < 0x20 ∨ c = '\\' then none
      else do
        let (pieces, rest) ← scanText rest
        return (.char c :: pieces, rest)

/-- One or more digits, and what follows them. -/
def scanDigits (cs : List Char) : Option (List Char × List Char) :=
  let digits := cs.takeWhile (Numeral.isDigit 10)
  if digits.isEmpty then none else some (digits, cs.dropWhile (Numeral.isDigit 10))

/-- What follows a fraction, and whether there is one. -/
def scanFraction : List Char → Option (Bool × List Char)
  | '.' :: rest => (scanDigits rest).map fun s => (true, s.2)
  | rest => some (false, rest)

/-- What follows the digits of an exponent with or without sign. -/
def scanPower : List Char → Option (List Char)
  | '+' :: rest => (scanDigits rest).map Prod.snd
  | '-' :: rest => (scanDigits rest).map Prod.snd
  | rest => (scanDigits rest).map Prod.snd

/-- What follows an exponent, and whether there is one. -/
def scanExponent : List Char → Option (Bool × List Char)
  | 'e' :: rest => (scanPower rest).map fun rest => (true, rest)
  | 'E' :: rest => (scanPower rest).map fun rest => (true, rest)
  | rest => some (false, rest)

/-- A number without sign, and what follows it.  Its first digit is zero only if it is the only one. -/
def scanUnsigned (cs : List Char) : Option (Option Nat × List Char) := do
  let (digits, rest) ← scanDigits cs
  if digits.head? = some '0' ∧ 1 < digits.length then none
  else do
    let (fraction, rest) ← scanFraction rest
    let (exponent, rest) ← scanExponent rest
    return (if fraction || exponent then none else Numeral.value? 10 digits, rest)

/-- The token at the head of a text, and what follows it. -/
def scan : List Char → Option (Token × List Char)
  | '[' :: rest => some (openArray, rest)
  | ']' :: rest => some (closeArray, rest)
  | '\x7b' :: rest => some (openObject, rest)
  | '\x7d' :: rest => some (closeObject, rest)
  | ',' :: rest => some (comma, rest)
  | ':' :: rest => some (colon, rest)
  | '"' :: rest => (scanText rest).map fun s => (text s.1, s.2)
  | 'n' :: 'u' :: 'l' :: 'l' :: rest => some (null, rest)
  | 't' :: 'r' :: 'u' :: 'e' :: rest => some (bool true, rest)
  | 'f' :: 'a' :: 'l' :: 's' :: 'e' :: rest => some (bool false, rest)
  | '-' :: rest => (scanUnsigned rest).map fun s => (number none, s.2)
  | cs => (scanUnsigned cs).map fun s => (number s.1, s.2)

theorem length_scanText {cs rest : List Char} {pieces : List Piece}
    (h : scanText cs = some (pieces, rest)) : rest.length < cs.length := by
  fun_induction scanText cs generalizing pieces rest with
  | case1 => cases h
  | case2 =>
      cases h
      simp
  | case3 a b c d r ih =>
      cases value : Numeral.value? 16 [a, b, c, d] with
      | none => simp [value] at h
      | some n =>
          cases inner : scanText r with
          | none => simp [value, inner] at h
          | some s =>
              obtain ⟨others, after⟩ := s
              simp [value, inner] at h
              obtain ⟨rfl, rfl⟩ := h
              have shorter := ih inner
              simp only [List.length_cons]
              omega
  | case4 e r _ ih =>
      cases value : escaped? e with
      | none => simp [value] at h
      | some n =>
          cases inner : scanText r with
          | none => simp [value, inner] at h
          | some s =>
              obtain ⟨others, after⟩ := s
              simp [value, inner] at h
              obtain ⟨rfl, rfl⟩ := h
              have shorter := ih inner
              simp only [List.length_cons]
              omega
  | case5 => cases h
  | case6 c r _ _ _ _ ih =>
      cases inner : scanText r with
      | none => simp [inner] at h
      | some s =>
          obtain ⟨others, after⟩ := s
          simp [inner] at h
          obtain ⟨rfl, rfl⟩ := h
          have shorter := ih inner
          simp only [List.length_cons]
          omega

theorem length_scanDigits {cs ds rest : List Char} (h : scanDigits cs = some (ds, rest)) :
    rest.length < cs.length := by
  unfold scanDigits at h
  dsimp only at h
  split at h
  · cases h
  · rename_i some_digit
    cases h
    have whole : (cs.takeWhile (Numeral.isDigit 10)).length +
        (cs.dropWhile (Numeral.isDigit 10)).length = cs.length := by
      rw [← List.length_append, List.takeWhile_append_dropWhile]
    have positive : 0 < (cs.takeWhile (Numeral.isDigit 10)).length := by
      rw [List.length_pos_iff]
      simpa using some_digit
    omega

theorem length_scanFraction {cs rest : List Char} {present : Bool}
    (h : scanFraction cs = some (present, rest)) : rest.length ≤ cs.length := by
  unfold scanFraction at h
  split at h
  · rename_i r
    cases digits : scanDigits r with
    | none => simp [digits] at h
    | some s =>
        have shorter := @length_scanDigits _ s.1 s.2 digits
        simp [digits] at h
        simp only [List.length_cons]
        rw [← h.2]
        omega
  · cases h
    exact Nat.le_refl _

theorem length_scanPower {cs rest : List Char} (h : scanPower cs = some rest) :
    rest.length ≤ cs.length := by
  have digits : ∀ r : List Char, (scanDigits r).map Prod.snd = some rest →
      rest.length < r.length := by
    intro r found
    cases scanned : scanDigits r with
    | none => simp [scanned] at found
    | some s =>
        have shorter := @length_scanDigits _ s.1 s.2 scanned
        simp [scanned] at found
        rw [← found]
        exact shorter
  unfold scanPower at h
  split at h
  · have := digits _ h
    simp only [List.length_cons]
    omega
  · have := digits _ h
    simp only [List.length_cons]
    omega
  · exact Nat.le_of_lt (digits _ h)

theorem length_scanExponent {cs rest : List Char} {present : Bool}
    (h : scanExponent cs = some (present, rest)) : rest.length ≤ cs.length := by
  have power : ∀ r : List Char, ((scanPower r).map fun rest => (true, rest)) = some (present, rest) →
      rest.length ≤ r.length := by
    intro r found
    cases scanned : scanPower r with
    | none => simp [scanned] at found
    | some s =>
        have shorter := length_scanPower scanned
        simp [scanned] at found
        rw [← found.2]
        exact shorter
  unfold scanExponent at h
  split at h
  · have := power _ h
    simp only [List.length_cons]
    omega
  · have := power _ h
    simp only [List.length_cons]
    omega
  · cases h
    exact Nat.le_refl _

theorem length_scanUnsigned {cs rest : List Char} {natural : Option Nat}
    (h : scanUnsigned cs = some (natural, rest)) : rest.length < cs.length := by
  unfold scanUnsigned at h
  cases digits : scanDigits cs with
  | none => simp [digits] at h
  | some s =>
      have first := @length_scanDigits _ s.1 s.2 digits
      simp only [digits, Option.bind_eq_bind, Option.bind_some] at h
      split at h
      · cases h
      · cases fraction : scanFraction s.2 with
        | none => simp [fraction] at h
        | some f =>
            have second := @length_scanFraction _ f.2 f.1 fraction
            cases exponent : scanExponent f.2 with
            | none => simp [fraction, exponent] at h
            | some e =>
                have third := @length_scanExponent _ e.2 e.1 exponent
                simp [fraction, exponent] at h
                rw [← h.2]
                omega

/-- Every token takes up at least one character. -/
theorem length_scan {cs rest : List Char} {t : Token} (h : scan cs = some (t, rest)) :
    rest.length < cs.length := by
  have unsigned : ∀ (f : Option Nat → Token) (r : List Char),
      ((scanUnsigned r).map fun s => (f s.1, s.2)) = some (t, rest) → rest.length < r.length := by
    intro f r found
    cases scanned : scanUnsigned r with
    | none => simp [scanned] at found
    | some s =>
        have shorter := @length_scanUnsigned _ s.2 s.1 scanned
        simp [scanned] at found
        rw [← found.2]
        exact shorter
  unfold scan at h
  split at h
  case h_7 r =>
    cases scanned : scanText r with
    | none => simp [scanned] at h
    | some s =>
        have shorter := @length_scanText _ s.2 s.1 scanned
        simp [scanned] at h
        rw [← h.2]
        simp only [List.length_cons]
        omega
  case h_11 r =>
    have shorter := unsigned (fun _ => number none) r h
    simp only [List.length_cons]
    omega
  case h_12 => exact unsigned number cs h
  all_goals
    cases h
    simp only [List.length_cons]
    omega

/-- The tokens of a text. -/
def all? : List Char → Option (List Token)
  | [] => some []
  | c :: rest =>
      if isBlank c then all? rest
      else
        match _scanned : scan (c :: rest) with
        | none => none
        | some (t, after) => (all? after).map (t :: ·)
termination_by cs => cs.length
decreasing_by
  · simp
  · exact length_scan _scanned

end Token

/-- A JSON value. -/
inductive Json
  | null
  | bool (b : Bool)
  /-- A number; its value is kept if it is written as a natural number. -/
  | number (natural : Option Nat)
  | text (pieces : List Piece)
  | array (items : List Json)
  | object (members : List (List Piece × Json))
deriving Repr

namespace Json

/-- A container that is still open, with its contents in reverse order. -/
inductive Pending
  | array (items : List Json)
  /-- An object that waits for the value of a key. -/
  | object (members : List (List Piece × Json)) (key : List Piece)

/-- What has been read, and thereby what may come next. -/
inductive State
  /-- A value comes next. -/
  | value (stack : List Pending)
  /-- An array was opened: a value or its end comes next. -/
  | firstItem (stack : List Pending)
  /-- An array holds items: a comma or its end comes next. -/
  | items (items : List Json) (stack : List Pending)
  /-- An object was opened: a key or its end comes next. -/
  | firstKey (stack : List Pending)
  /-- A key comes next. -/
  | key (members : List (List Piece × Json)) (stack : List Pending)
  /-- A colon comes next. -/
  | colon (members : List (List Piece × Json)) (key : List Piece) (stack : List Pending)
  /-- An object holds members: a comma or its end comes next. -/
  | members (members : List (List Piece × Json)) (stack : List Pending)
  /-- Nothing more may come. -/
  | done (v : Json)

/-- A value is complete: it goes into the innermost open container. -/
def complete (v : Json) : List Pending → State
  | [] => .done v
  | .array items :: stack => .items (v :: items) stack
  | .object members key :: stack => .members ((key, v) :: members) stack

/-- A token that starts a value. -/
def begin? (stack : List Pending) : Token → Option State
  | .null => some (complete .null stack)
  | .bool b => some (complete (.bool b) stack)
  | .number natural => some (complete (.number natural) stack)
  | .text pieces => some (complete (.text pieces) stack)
  | .openArray => some (.firstItem stack)
  | .openObject => some (.firstKey stack)
  | _ => none

/-- One token. -/
def step? : State → Token → Option State
  | .value stack, t => begin? stack t
  | .firstItem stack, .closeArray => some (complete (.array []) stack)
  | .firstItem stack, t => begin? (.array [] :: stack) t
  | .items items stack, .comma => some (.value (.array items :: stack))
  | .items items stack, .closeArray => some (complete (.array items.reverse) stack)
  | .firstKey stack, .closeObject => some (complete (.object []) stack)
  | .firstKey stack, .text key => some (.colon [] key stack)
  | .key members stack, .text key => some (.colon members key stack)
  | .colon members key stack, .colon => some (.value (.object members key :: stack))
  | .members members stack, .comma => some (.key members stack)
  | .members members stack, .closeObject => some (complete (.object members.reverse) stack)
  | _, _ => none

/-- The value that a row of tokens stands for. -/
def ofTokens? (tokens : List Token) : Option Json :=
  match tokens.foldlM step? (.value []) with
  | some (.done v) => some v
  | _ => none

/-- Reads a JSON text. -/
def ofText? (text : List Char) : Option Json :=
  (Token.all? text).bind ofTokens?

/-- A character of a text, escaped if it has to be. -/
def escape (c : Char) : List Char :=
  match c with
  | '"' => ['\\', '"']
  | '\\' => ['\\', '\\']
  | '\n' => ['\\', 'n']
  | '\r' => ['\\', 'r']
  | '\t' => ['\\', 't']
  | c =>
      let n := c.toNat
      if n = 8 then ['\\', 'b']
      else if n = 12 then ['\\', 'f']
      else if n < 0x20 then
        ['\\', 'u', '0', '0', Numeral.digit (n / 16), Numeral.digit (n % 16)]
      else [c]

/-- A text in quotes. -/
def quote (text : String) : List Char :=
  '"' :: text.toList.flatMap escape ++ ['"']

end Json

end TopoSync
