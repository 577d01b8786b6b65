import TopoSync.Config.Settings
import TopoSync.Proofs.Config.Addresses
import TopoSync.Proofs.Config.Tokens
import TopoSync.Proofs.Text.Strict

/-!
# Settings saved and loaded

A file that mentions some settings is read line by line: each line adds one member to an object that is
still open, so the object has one member for each setting that is mentioned, in the order of the lines.
Each of these members assigns the value that was saved, and what is left out has its usual value.
-/

namespace TopoSync

namespace Json

/-- What has been read after some more characters. -/
def readFrom (state : State) (cs : List Char) : Option State :=
  (Token.all? cs).bind fun tokens => tokens.foldlM step? state

theorem ofText?_of_done {cs : List Char} {v : Json}
    (done : readFrom (.value []) cs = some (.done v)) : ofText? cs = some v := by
  obtain ⟨tokens, scanned, read⟩ := Option.bind_eq_some_iff.mp done
  rw [ofText?, scanned, Option.bind_some, ofTokens?, read]

theorem readFrom_nil (state : State) : readFrom state [] = some state := by
  rw [readFrom, Token.all?]
  rfl

theorem readFrom_blank {c : Char} (blank : Token.isBlank c = true) (state : State) (rest : List Char) :
    readFrom state (c :: rest) = readFrom state rest := by
  rw [readFrom, Token.all?, if_pos blank, readFrom]

theorem scan_blank {c : Char} (blank : Token.isBlank c = true) (rest : List Char) :
    Token.scan (c :: rest) = none := by
  simp only [Token.isBlank, Bool.or_eq_true, beq_iff_eq] at blank
  rcases blank with ((rfl | rfl) | rfl) | rfl <;> rfl

theorem readFrom_token {state next : State} {cs rest : List Char} {t : Token}
    (scanned : Token.scan cs = some (t, rest)) (stepped : step? state t = some next) :
    readFrom state cs = readFrom next rest := by
  cases cs with
  | nil => cases scanned
  | cons c cs =>
      have noBlank : ¬ Token.isBlank c = true := by
        intro blank
        rw [scan_blank blank] at scanned
        cases scanned
      have tokens : Token.all? (c :: cs) = (Token.all? rest).map (t :: ·) := by
        rw [Token.all?, if_neg noBlank]
        split
        · rename_i failed
          rw [scanned] at failed
          cases failed
        · rename_i found
          cases scanned.symm.trans found
          rfl
      rw [readFrom, readFrom, tokens]
      cases Token.all? rest with
      | none => rfl
      | some others =>
          rw [Option.map_some, Option.bind_some, Option.bind_some, List.foldlM_cons, stepped]
          rfl

end Json

namespace Setting

open Json

/-- The value of a setting as it is read. -/
def json (s : Settings) : Setting → Json
  | bindAddress => .text (s.bindAddress.text.toList.map Piece.written)
  | port => .number (some s.port.toNat)
  | databasePath => .text (s.databasePath.toList.map Piece.written)
  | maxFrameSize => .number (some s.maxFrameSize.toNat)
  | maxSessions => .number (some s.maxSessions.toNat)
  | readChunkSize => .number (some s.readChunkSize.toNat)
  | tcpNodelay => .bool s.tcpNodelay
  | logLevel => .text (s.logLevel.toList.map Piece.written)

/-- The member that a setting is read as. -/
def member (s : Settings) (setting : Setting) : List Piece × Json :=
  (setting.name.toList.map Piece.written, json s setting)

variable {c : Char} (stop : c = ',' ∨ c = '\n') (s : Settings) (rest : List Char)
include stop

/-- The value of a setting is one token, which is read as one value. -/
theorem readFrom_value (stack : List Pending) (setting : Setting) :
    readFrom (.value stack) (value s setting ++ c :: rest) =
      readFrom (complete (json s setting) stack) (c :: rest) := by
  cases setting with
  | bindAddress => exact readFrom_token (Token.scan_quote _ _) rfl
  | port => exact readFrom_token (Token.scan_digits _ _ stop) rfl
  | databasePath => exact readFrom_token (Token.scan_quote _ _) rfl
  | maxFrameSize => exact readFrom_token (Token.scan_digits _ _ stop) rfl
  | maxSessions => exact readFrom_token (Token.scan_digits _ _ stop) rfl
  | readChunkSize => exact readFrom_token (Token.scan_digits _ _ stop) rfl
  | tcpNodelay => exact readFrom_token (Token.scan_bool _ _) rfl
  | logLevel => exact readFrom_token (Token.scan_quote _ _) rfl

variable {state : State} {members : List (List Piece × Json)} {stack : List Pending}

/-- A line adds a member wherever a key may stand. -/
theorem readFrom_line (opens : ∀ key, step? state (.text key) = some (.colon members key stack))
    (setting : Setting) :
    readFrom state (s.line setting ++ c :: rest) =
      readFrom (.members (member s setting :: members) stack) (c :: rest) := by
  calc
    readFrom state (s.line setting ++ c :: rest) =
        readFrom state (quote setting.name ++ (':' :: ' ' :: (value s setting ++ c :: rest))) := by
      simp only [Settings.line, List.append_assoc, List.cons_append, List.nil_append]
      rw [readFrom_blank rfl, readFrom_blank rfl]
    _ = readFrom (.colon members (setting.name.toList.map Piece.written) stack)
          (':' :: ' ' :: (value s setting ++ c :: rest)) :=
      readFrom_token (Token.scan_quote _ _) (opens _)
    _ = readFrom (.value (.object members (setting.name.toList.map Piece.written) :: stack))
          (' ' :: (value s setting ++ c :: rest)) := readFrom_token rfl rfl
    _ = readFrom (.members (member s setting :: members) stack) (c :: rest) := by
      rw [readFrom_blank rfl, readFrom_value stop]
      rfl

omit stop in
/-- Lines with commas between them add their members in order. -/
theorem readFrom_lines (opens : ∀ key, step? state (.text key) = some (.colon members key stack))
    (first : Setting) (others : List Setting) :
    readFrom state ([',', '\n'].intercalate ((first :: others).map s.line) ++ '\n' :: rest) =
      readFrom (.members (((first :: others).map (member s)).reverse ++ members) stack)
        ('\n' :: rest) := by
  induction others generalizing state members first with
  | nil =>
      rw [List.map_singleton, List.intercalate_singleton, readFrom_line (.inr rfl) s rest opens]
      rfl
  | cons second others ih =>
      rw [List.map_cons, List.map_cons, List.intercalate_cons_cons, List.append_assoc,
        List.append_assoc, List.cons_append, readFrom_line (.inl rfl) s _ opens,
        readFrom_token rfl rfl, List.singleton_append, readFrom_blank rfl, ← List.map_cons,
        ih (fun _ => rfl) second]
      simp

end Setting

namespace Settings

open Json

variable (s : Settings)

/-- A file is read as an object with the settings that it mentions. -/
theorem ofText?_textOf (mentioned : List Setting) :
    ofText? (s.textOf mentioned).toList = some (.object (mentioned.map (Setting.member s))) := by
  apply ofText?_of_done
  cases mentioned with
  | nil =>
      have text : (s.textOf []).toList = ['\x7b', '\x7d'] := by simp [textOf]
      rw [text, readFrom_token rfl rfl, readFrom_token rfl rfl, readFrom_nil]
      rfl
  | cons first others =>
      have text : (s.textOf (first :: others)).toList = '\x7b' :: '\n' ::
          ([',', '\n'].intercalate ((first :: others).map s.line) ++ '\n' :: ['\x7d']) := by
        simp [textOf]
      rw [text, readFrom_token rfl rfl, readFrom_blank rfl,
        Setting.readFrom_lines s ['\x7d'] (fun _ => rfl), readFrom_blank rfl, readFrom_token rfl rfl,
        List.append_nil, List.reverse_reverse, readFrom_nil]
      rfl

theorem assignments?_members (mentioned : List Setting) :
    assignments? (mentioned.map (Setting.member s)) =
      some (mentioned.map fun setting => (setting, Setting.json s setting)) := by
  induction mentioned with
  | nil => rfl
  | cons first others ih =>
      simp only [List.map_cons, Setting.member, assignments?] at ih ⊢
      rw [ih, Piece.join?_written]
      simp only [Option.bind_eq_bind, Option.bind_some, String.ofList_toList, Setting.ofName?_name]
      rfl

/-- What a file that mentions some settings says about all of them. -/
def draft (mentioned : List Setting) : Draft where
  bindAddress := if .bindAddress ∈ mentioned then some s.bindAddress else none
  port := if .port ∈ mentioned then some s.port else none
  databasePath := if .databasePath ∈ mentioned then some s.databasePath else none
  maxFrameSize := if .maxFrameSize ∈ mentioned then some s.maxFrameSize else none
  maxSessions := if .maxSessions ∈ mentioned then some s.maxSessions else none
  readChunkSize := if .readChunkSize ∈ mentioned then some s.readChunkSize else none
  tcpNodelay := if .tcpNodelay ∈ mentioned then some s.tcpNodelay else none
  logLevel := if .logLevel ∈ mentioned then some s.logLevel else none

theorem string?_written (text : String) :
    (Json.text (text.toList.map Piece.written)).string? = some text := by
  rw [string?, Piece.join?_written, Option.map_some, String.ofList_toList]

theorem below?_of_lt {n limit : Nat} (small : n < limit) :
    (Json.number (some n)).below? limit = some n := by
  simp [below?, small]

/-- A member assigns the value that was saved. -/
theorem assign?_json (before : List Setting) (setting : Setting) :
    Setting.assign? (s.draft before) setting (Setting.json s setting) =
      some (s.draft (before ++ [setting])) := by
  cases setting with
  | bindAddress =>
      simp [Setting.assign?, Setting.json, draft, string?_written, IpAddress.ofText?_text]
  | port => simp [Setting.assign?, Setting.json, draft, below?_of_lt s.port.toNat_lt]
  | databasePath => simp [Setting.assign?, Setting.json, draft, string?_written]
  | maxFrameSize => simp [Setting.assign?, Setting.json, draft, below?_of_lt s.maxFrameSize.toNat_lt]
  | maxSessions => simp [Setting.assign?, Setting.json, draft, below?_of_lt s.maxSessions.toNat_lt]
  | readChunkSize => simp [Setting.assign?, Setting.json, draft, below?_of_lt s.readChunkSize.toNat_lt]
  | tcpNodelay => simp [Setting.assign?, Setting.json, draft, bool?]
  | logLevel => simp [Setting.assign?, Setting.json, draft, string?_written]

theorem foldlM_assign? (before mentioned : List Setting) :
    (mentioned.map fun setting => (setting, Setting.json s setting)).foldlM
        (fun d a => Setting.assign? d a.1 a.2) (s.draft before) =
      some (s.draft (before ++ mentioned)) := by
  induction mentioned generalizing before with
  | nil => simp
  | cons first others ih =>
      rw [List.map_cons, List.foldlM_cons, assign?_json, Option.bind_eq_bind, Option.bind_some, ih,
        List.append_assoc, List.singleton_append]

/-- A file that mentions no setting twice is loaded. -/
theorem load_textOf {mentioned : List Setting} (distinct : mentioned.Nodup) :
    load (.ok (Utf8.encode (s.textOf mentioned))) = .ok (s.draft mentioned).settings := by
  have keys : ((mentioned.map fun setting => (setting, Setting.json s setting)).map
      Prod.fst) = mentioned := by
    rw [List.map_map]
    exact List.map_id _
  have read : ofJson? (.object (mentioned.map (Setting.member s))) =
      some (s.draft mentioned).settings := by
    simp only [ofJson?, assignments?_members, Option.bind_eq_bind, Option.bind_some, keys]
    rw [if_pos distinct, ofAssignments?]
    exact congrArg (Option.map Draft.settings) (foldlM_assign? s [] mentioned)
  rw [load, ofBytes, Utf8.strict?_encode]
  dsimp only
  rw [ofText?_textOf, Option.bind_some, read]

/-- The settings with those that are not kept at their usual values. -/
def keeping (kept : Setting → Bool) : Settings where
  bindAddress := if kept .bindAddress then s.bindAddress else ({} : Settings).bindAddress
  port := if kept .port then s.port else ({} : Settings).port
  databasePath := if kept .databasePath then s.databasePath else ({} : Settings).databasePath
  maxFrameSize := if kept .maxFrameSize then s.maxFrameSize else ({} : Settings).maxFrameSize
  maxSessions := if kept .maxSessions then s.maxSessions else ({} : Settings).maxSessions
  readChunkSize := if kept .readChunkSize then s.readChunkSize else ({} : Settings).readChunkSize
  tcpNodelay := if kept .tcpNodelay then s.tcpNodelay else ({} : Settings).tcpNodelay
  logLevel := if kept .logLevel then s.logLevel else ({} : Settings).logLevel

theorem getD_ite {α : Type} (p : Prop) [Decidable p] (a usual : α) :
    (if p then some a else none).getD usual = if p then a else usual := by
  split <;> rfl

/-- What a file leaves out has the value that it has in the usual settings. -/
theorem draft_filter (kept : Setting → Bool) :
    (s.draft (Setting.all.filter kept)).settings = s.keeping kept := by
  simp only [draft, Draft.settings, keeping, List.mem_filter, Setting.mem_all, true_and, getD_ite]
  rfl

end Settings

/-- Settings are loaded as they were saved.  A file from which the members of some settings are removed
gives the other settings the values that were saved, and those that were removed their usual values. -/
theorem settings_survive_saving (s : Settings) :
    Settings.load (.ok (Utf8.encode s.text)) = .ok s ∧
      ∀ kept : Setting → Bool,
        Settings.load (.ok (Utf8.encode (s.textOf (Setting.all.filter kept)))) =
          .ok (s.keeping kept) := by
  have some_kept : ∀ kept : Setting → Bool,
      Settings.load (.ok (Utf8.encode (s.textOf (Setting.all.filter kept)))) =
        .ok (s.keeping kept) := by
    intro kept
    have distinct : Setting.all.Nodup := by decide
    rw [Settings.load_textOf s (distinct.filter kept), Settings.draft_filter]
  exact ⟨some_kept fun _ => true, some_kept⟩

end TopoSync
