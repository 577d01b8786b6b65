import Mathlib
import TopoSync.Proofs.LockNews
import TopoSync.Proofs.Text.Cuts
import TopoSync.Proofs.Text.Pieces
import TopoSync.Proofs.Wire.Announcements
import TopoSync.Proofs.Wire.Grammar

/-!
# Texts and the columns that keep them

A column keeps so many bytes of what is sent, and the text that is read from them.  Well-formed bytes
are no shorter than their text, but a replacement may be longer than the run that it stands for, also
where the cut goes through a character: then the text is longer than the column, and its bytes are cut
once more when somebody reads them.
-/

namespace TopoSync

/-- The editable fields of a node as they are sent: bytes stand where the texts are. -/
structure SentFields where
  objectId : Bytes := []
  name : Bytes := []
  contact : Bytes := []
  location : Bytes := []
  description : Bytes := []
  ipForwarding : UInt8 := 0
  mgmtAddress : Bytes := []
  mgmtFlags : UInt32 := 0
  topoFlags : UInt32 := 0
deriving DecidableEq, Repr

open Request (keep)

namespace SentFields

/-- The fields on the wire. -/
def wireFields (s : SentFields) : List Field :=
  [.block s.objectId, .block s.name, .block s.contact, .block s.location, .block s.description,
    .byte s.ipForwarding, .block s.mgmtAddress, .word s.mgmtFlags, .word s.topoFlags]

/-- Whether the length of every block can be announced. -/
def Fits (s : SentFields) : Prop :=
  ∀ f ∈ s.wireFields, f.Fits

/-- The fields as they are kept. -/
def kept (s : SentFields) : NodeFields where
  objectId := keep (textCapacity - 1) s.objectId
  name := keep (textCapacity - 1) s.name
  contact := keep (textCapacity - 1) s.contact
  location := keep (textCapacity - 1) s.location
  description := keep (textCapacity - 1) s.description
  ipForwarding := s.ipForwarding != 0
  mgmtAddress := keep (addressCapacity - 1) s.mgmtAddress
  mgmtFlags := s.mgmtFlags
  topoFlags := s.topoFlags

end SentFields

namespace NodeFields

/-- The fields as they are sent by somebody who sends texts. -/
def sent (f : NodeFields) : SentFields where
  objectId := Utf8.encode f.objectId
  name := Utf8.encode f.name
  contact := Utf8.encode f.contact
  location := Utf8.encode f.location
  description := Utf8.encode f.description
  ipForwarding := if f.ipForwarding then 1 else 0
  mgmtAddress := Utf8.encode f.mgmtAddress
  mgmtFlags := f.mgmtFlags
  topoFlags := f.topoFlags

/-- The texts, and how many bytes the column of each keeps. -/
def columns (f : NodeFields) : List (Nat × String) :=
  [(textCapacity - 1, f.objectId), (textCapacity - 1, f.name), (textCapacity - 1, f.contact),
    (textCapacity - 1, f.location), (textCapacity - 1, f.description),
    (addressCapacity - 1, f.mgmtAddress)]

/-- Fields are kept as they are if their texts are. -/
theorem kept_sent_eq_iff (f : NodeFields) :
    f.sent.kept = f ↔ ∀ c ∈ f.columns, keep c.1 (Utf8.encode c.2) = c.2 := by
  have flag : ((if f.ipForwarding then 1 else 0 : UInt8) != 0) = f.ipForwarding := by
    cases f.ipForwarding <;> rfl
  obtain ⟨objectId, name, contact, location, description, ipForwarding, mgmtAddress, _, _⟩ := f
  simp only [sent, SentFields.kept, columns, flag, NodeFields.mk.injEq, List.forall_mem_cons,
    and_true, true_and, List.not_mem_nil, false_imp_iff, implies_true]

end NodeFields

namespace Utf8

theorem length_encode_replacement (s : String) :
    (encode (s.push replacement)).length = (encode s).length + 3 := by
  have three : (encodeChar replacement).length = 3 := by decide
  rw [encode_push, List.length_append, three]

end Utf8

namespace Request

open Utf8 (encode replacement excess)

variable (most : Nat)

theorem length_keep (bytes : Bytes) :
    (encode (keep most bytes)).length = (bytes.take most).length + excess (bytes.take most) :=
  Utf8.length_encode_lossy _

theorem length_keep_le (bytes : Bytes) :
    (encode (keep most bytes)).length ≤ 3 * (bytes.take most).length := by
  have more := Utf8.excess_le (bytes.take most)
  rw [length_keep]
  omega

/-- What is kept of a well-formed text is kept from then on. -/
theorem keep_keep_encode (text : String) :
    keep most (encode (keep most (encode text))) = keep most (encode text) := by
  rcases Utf8.lossy_take_encode text most with ⟨fits, same⟩ | ⟨s, rest, c, -, before, -, cut⟩
  · have whole : keep most (encode text) = text := same
    rw [whole, whole]
  · rw [keep, Utf8.lossy_take_encode_eq_iff, keep, cut]
    split
    · exact .inl before
    · exact .inr ⟨s, rfl, by omega⟩

/-- What is kept of a well-formed text is at most two bytes longer than its column. -/
theorem length_keep_encode_le (text : String) :
    (encode (keep most (encode text))).length ≤ most + 2 := by
  rcases Utf8.lossy_take_encode text most with ⟨fits, same⟩ | ⟨s, rest, c, -, before, -, cut⟩
  · rw [keep, same]
    omega
  · rw [keep, cut]
    split
    · omega
    · rw [Utf8.length_encode_replacement]
      omega

end Request

/-- Fields whose texts were sent as texts are kept as they are from then on. -/
theorem NodeFields.kept_sent_kept (f : NodeFields) : f.sent.kept.sent.kept = f.sent.kept := by
  have columns : f.sent.kept.columns =
      f.columns.map fun c => (c.1, keep c.1 (Utf8.encode c.2)) := rfl
  rw [kept_sent_eq_iff, columns, List.forall_mem_map]
  exact fun c _ => Request.keep_keep_encode c.1 c.2

namespace Read

/-- The shapes of the editable fields of a node. -/
def nodeLayout : Layout :=
  [.block, .block, .block, .block, .block, .byte, .block, .word, .word]

/-- The sent fields that an instance of the layout is made of. -/
def sentFields? : List Field → Option SentFields
  | [.block objectId, .block name, .block contact, .block location, .block description,
      .byte ipForwarding, .block mgmtAddress, .word mgmtFlags, .word topoFlags] =>
      some ⟨objectId, name, contact, location, description, ipForwarding, mgmtAddress, mgmtFlags,
        topoFlags⟩
  | _ => none

theorem obeys_nodeFields :
    Obeys nodeFields nodeLayout fun found => (sentFields? found).map SentFields.kept :=
  .boundedText fun _ => .boundedText fun _ => .boundedText fun _ => .boundedText fun _ =>
    .boundedText fun _ => .byte fun _ => .boundedText fun _ => .word fun _ => .word fun _ => .pure rfl

/-- The layout admits what can be sent. -/
theorem admits_nodeLayout_iff {found : List Field} :
    nodeLayout.Admits found ↔ ∃ s : SentFields, s.Fits ∧ found = s.wireFields := by
  constructor
  · intro ok
    suffices made : ∃ s : SentFields, found = s.wireFields by
      obtain ⟨s, rfl⟩ := made
      exact ⟨s, ok.fits, rfl⟩
    obtain _ | ⟨⟨⟩, _ | ⟨⟨⟩, _ | ⟨⟨⟩, _ | ⟨⟨⟩, _ | ⟨⟨⟩, _ | ⟨⟨⟩, _ | ⟨⟨⟩, _ | ⟨⟨⟩, _ | ⟨⟨⟩,
      ⟨⟩⟩⟩⟩⟩⟩⟩⟩⟩⟩ := ok
    exact ⟨⟨_, _, _, _, _, _, _, _, _⟩, rfl⟩
  · rintro ⟨s, fits, rfl⟩
    simp only [SentFields.Fits, SentFields.wireFields, List.forall_mem_cons] at fits
    obtain ⟨objectId, name, contact, location, description, -, mgmtAddress, -⟩ := fits
    exact .cons (.block objectId) <| .cons (.block name) <| .cons (.block contact) <|
      .cons (.block location) <| .cons (.block description) <| .cons (.byte _) <|
      .cons (.block mgmtAddress) <| .cons (.word _) <| .cons (.word _) .nil

/-- The editable fields of a node are read from what can be sent, and are what is kept of it. -/
theorem nodeFields_of_sent {c : Cursor} {s : SentFields} {rest : Bytes} (fits : s.Fits)
    (payload : c.rest = Field.encodeAll s.wireFields ++ rest) : (nodeFields c).1 = .ok s.kept := by
  have obeys := obeys_nodeFields c
  have found := reads_fields (admits_nodeLayout_iff.mpr ⟨s, fits, rfl⟩) c.position rest
  rw [← payload] at found
  rw [found] at obeys
  obtain ⟨_, means, read⟩ := obeys
  cases means
  exact read

/-- They are read from nothing else. -/
theorem nodeFields_ok_iff (c : Cursor) (fields : NodeFields) :
    (nodeFields c).1 = .ok fields ↔
      ∃ (s : SentFields) (rest : Bytes), s.Fits ∧
        c.rest = Field.encodeAll s.wireFields ++ rest ∧ fields = s.kept := by
  constructor
  · intro read
    rcases nodeLayout.admits_or_lacks c.position c.rest with
      ⟨found, rest, ok, payload⟩ | ⟨e, short⟩
    · obtain ⟨s, fits, rfl⟩ := admits_nodeLayout_iff.mp ok
      cases (nodeFields_of_sent fits payload).symm.trans read
      exact ⟨s, rest, fits, payload, rfl⟩
    · have obeys := obeys_nodeFields c
      obtain ⟨_, fails⟩ := fields_of_lacks short
      rw [fails] at obeys
      cases obeys.symm.trans read
  · rintro ⟨s, rest, fits, payload, rfl⟩
    exact nodeFields_of_sent fits payload

end Read

namespace Request

/-- A login is read exactly from two blocks, and what is kept of them is the name and the password. -/
theorem decode_login_iff (frame : Bytes) (name password : String) :
    decode .login frame = .ok (.login name password) ↔
      ∃ sentName sentPassword rest : Bytes, sentName.length ≤ Field.maxBlock ∧
        sentPassword.length ≤ Field.maxBlock ∧
        frame.drop Frame.headerSize =
          Field.encodeBlock sentName ++ Field.encodeBlock sentPassword ++ rest ∧
        name = keep (credentialCapacity - 1) sentName ∧
        password = keep (credentialCapacity - 1) sentPassword := by
  refine ((decode_iff_layout .login frame).1 _).trans ⟨?_, ?_⟩
  · rintro ⟨found, rest, payload, ok, means⟩
    have fits := ok.fits
    obtain _ | ⟨⟨⟩, _ | ⟨⟨⟩, ⟨⟩⟩⟩ := ok
    rw [List.forall_mem_cons, List.forall_mem_cons] at fits
    obtain ⟨first, second, -⟩ := fits
    rw [Field.encodeAll_cons, Field.encodeAll_cons, Field.encodeAll_nil, List.append_nil] at payload
    cases means
    exact ⟨_, _, rest, first, second, payload, rfl, rfl⟩
  · rintro ⟨sentName, sentPassword, rest, first, second, payload, rfl, rfl⟩
    refine ⟨[.block sentName, .block sentPassword], rest, ?_,
      .cons (.block first) (.cons (.block second) .nil), rfl⟩
    rw [Field.encodeAll_cons, Field.encodeAll_cons, Field.encodeAll_nil, List.append_nil]
    exact payload

variable {frame : Bytes} {node : NodeId} {fields : NodeFields}

/-- New fields are read after the number of the node. -/
theorem nodeFields_of_decode (asked : decode .setNode frame = .ok (.setNode node fields)) :
    (Read.nodeFields (Cursor.atOffset frame (Frame.headerSize + 4))).1 = .ok fields := by
  obtain ⟨found, rest, payload, ok, means⟩ := ((decode_iff_layout .setNode frame).1 _).mp asked
  obtain _ | ⟨⟨⟩, ok⟩ := ok
  obtain ⟨s, fits, rfl⟩ := Read.admits_nodeLayout_iff.mp ok
  cases means
  have further : frame.drop (Frame.headerSize + 4) = Field.encodeAll s.wireFields ++ rest := by
    have twice : frame.drop (Frame.headerSize + 4) = (frame.drop 8).drop 4 := by
      rw [List.drop_drop]
      rfl
    rw [twice, payload]
    rfl
  exact Read.nodeFields_of_sent fits further

end Request

section Told

variable {node : NodeId} {fields : NodeFields}

/-- Who is told of new fields and reads them like a request finds what their columns keep. -/
theorem nodeFields_nodeUpdated (fits : fields.sent.Fits) :
    (Read.nodeFields (Cursor.atOffset (Notification.nodeUpdated node fields).toFrame.bytes
      (Frame.headerSize + 4))).1 = .ok fields.sent.kept :=
  Read.nodeFields_of_sent fits (List.append_nil _).symm

/-- What is kept can be sent. -/
theorem SentFields.fits_sent_kept (s : SentFields) : s.kept.sent.Fits := by
  have each : ∀ most bytes, most ≤ 251 → (Field.block (Utf8.encode (keep most bytes))).Fits := by
    intro most bytes small
    have bound := Request.length_keep_le most bytes
    have cut := List.length_take_le most bytes
    rw [Field.Fits, Field.maxBlock]
    omega
  have short : textCapacity - 1 ≤ 251 ∧ addressCapacity - 1 ≤ 251 := by decide
  simp only [Fits, wireFields, NodeFields.sent, kept, List.forall_mem_cons]
  exact ⟨each _ _ short.1, each _ _ short.1, each _ _ short.1, each _ _ short.1, each _ _ short.1,
    trivial, each _ _ short.2, trivial, trivial, List.forall_mem_nil _⟩

end Told

open Utf8 (encode replacement pieces)

/-- What the columns of texts keep.  The bytes that a column keeps are cut into characters and short
ill-formed runs, and a replacement stands for each run: the text is longer than the bytes by what the
replacements are longer than the runs, and fits the column exactly if this is no more than the room
left.  A text that fits is read back from its own bytes, and one that does not only if it ends with a
replacement that the cut goes through.  What is kept of a well-formed text is the text if it fits, and
otherwise what is before the cut, with a replacement if the cut goes through a character; it is at most
two bytes too long, and read back as it is.  Logins and the fields of nodes are read exactly from
blocks, and are what their columns keep of these.  Accepted fields are kept as they were read, saved
when the node is written back, and sent to every other subscriber.  Who reads them from that frame
finds them exactly if each text fits or ends with a replacement that the cut goes through, and in
particular if the texts were sent well-formed. -/
theorem texts_of_columns {σ : Type} [Store σ] (h : Hub σ) (session : SessionId) (now : UInt32) :
    (∀ most sent,
      (pieces (sent.take most)).flatMap Utf8.Piece.bytes = sent.take most ∧
        (∀ p ∈ pieces (sent.take most), p.Short) ∧
        keep most sent = String.ofList ((pieces (sent.take most)).map Utf8.Piece.char) ∧
        let more := ((pieces (sent.take most)).map Utf8.Piece.excess).sum
        (encode (keep most sent)).length = (sent.take most).length + more ∧
        more ≤ 2 * (sent.take most).length ∧
        ((encode (keep most sent)).length ≤ most ↔ more ≤ most - (sent.take most).length) ∧
        (keep most (encode (keep most sent)) = keep most sent ↔
          (encode (keep most sent)).length ≤ most ∨
            ∃ s : String, keep most sent = s.push replacement ∧ (encode s).length < most)) ∧
    (∀ most text,
      ((encode text).length ≤ most ∧ keep most (encode text) = text ∨
        ∃ (s rest : String) (c : Char), text = s.push c ++ rest ∧ (encode s).length ≤ most ∧
          most < (encode (s.push c)).length ∧
          keep most (encode text) = if (encode s).length = most then s else s.push replacement) ∧
        (encode (keep most (encode text))).length ≤ most + 2 ∧
        keep most (encode (keep most (encode text))) = keep most (encode text)) ∧
    (∀ frame name password,
      Request.decode .login frame = .ok (.login name password) ↔
        ∃ sentName sentPassword rest : Bytes, sentName.length ≤ Field.maxBlock ∧
          sentPassword.length ≤ Field.maxBlock ∧
          frame.drop Frame.headerSize =
            Field.encodeBlock sentName ++ Field.encodeBlock sentPassword ++ rest ∧
          name = keep (credentialCapacity - 1) sentName ∧
          password = keep (credentialCapacity - 1) sentPassword) ∧
    (∀ buffer position fields,
      (Read.nodeFields (Cursor.atOffset buffer position)).1 = .ok fields ↔
        ∃ (s : SentFields) (rest : Bytes), s.Fits ∧
          buffer.drop position = Field.encodeAll s.wireFields ++ rest ∧ fields = s.kept) ∧
    ∀ frame node fields, Request.decode .setNode frame = .ok (.setNode node fields) →
      (h.apply session now (.setNode node fields)).1 = .ok () →
      let h' := (h.apply session now (.setNode node fields)).2
      let told := Cursor.atOffset (Notification.nodeUpdated node fields).toFrame.bytes
        (Frame.headerSize + 4)
      ∃ (s : SentFields) (rest : Bytes) (n : OpenNode), s.Fits ∧
        frame.drop (Frame.headerSize + 4) = Field.encodeAll s.wireFields ++ rest ∧
        fields = s.kept ∧
        h.nodes.get? node = some n ∧ n.isHeldBy session = true ∧
        h'.nodes = h.nodes.insert node { n with record := { n.record with fields } } ∧
        (h'.writeBackNode node).store = (Store.saveNode h'.store node fields).2 ∧
        h.GoesRound
          ((n.subscribers.members.filter fun v => v ≠ session).map fun v =>
            (v, .nodeUpdated node fields)) h' ∧
        (Read.nodeFields told).1 = .ok fields.sent.kept ∧
        ((Read.nodeFields told).1 = .ok fields ↔
          ∀ c ∈ fields.columns, (encode c.2).length ≤ c.1 ∨
            ∃ t : String, c.2 = t.push replacement ∧ (encode t).length < c.1) ∧
        ∀ asked : NodeFields, s = asked.sent → (Read.nodeFields told).1 = .ok fields := by
  refine ⟨fun most sent => ?_, fun most text => ?_, Request.decode_login_iff,
    fun buffer position => Read.nodeFields_ok_iff _, ?_⟩
  · have length := Request.length_keep most sent
    have cut := List.length_take_le most sent
    refine ⟨Utf8.flatMap_bytes_pieces _, fun p => Utf8.short_of_mem_pieces, Utf8.lossy_eq_pieces _,
      length, Utf8.excess_le _, ?_, Utf8.lossy_take_encode_eq_iff _ _⟩
    rw [length, Utf8.excess]
    omega
  · exact ⟨Utf8.lossy_take_encode text most, Request.length_keep_encode_le most text,
      Request.keep_keep_encode most text⟩
  · intro frame node fields asked granted h' told
    obtain ⟨s, rest, fits, payload, rfl⟩ :=
      (Read.nodeFields_ok_iff _ _).mp (Request.nodeFields_of_decode asked)
    have read : (Read.nodeFields told).1 = .ok s.kept.sent.kept :=
      nodeFields_nodeUpdated s.fits_sent_kept
    rcases h.setNode_cases session node s.kept now with
      ⟨_, refused⟩ | ⟨n, found, holds, nodes, round⟩
    · rw [refused] at granted
      cases granted
    · refine ⟨s, rest, n, fits, payload, rfl, found, holds, nodes, ?_, round, read, ?_, ?_⟩
      · have kept : h'.nodes.get? node =
            some { n with record := { n.record with fields := s.kept } } := by
          rw [nodes, Table.get?_insert, if_pos rfl]
        rw [Hub.writeBackNode_of_get? kept]
      · rw [read, Except.ok.injEq, NodeFields.kept_sent_eq_iff]
        exact forall₂_congr fun c _ => Utf8.lossy_take_encode_eq_iff c.2 c.1
      · rintro texts rfl
        rw [read, texts.kept_sent_kept]

/-- An address of forty bytes, of which the last two are one character. -/
def straddled : SentFields :=
  { mgmtAddress := List.replicate 38 0x61 ++ [0xC3, 0xA9] }

/-- An address whose last two bytes begin no character. -/
def illEnding : SentFields :=
  { mgmtAddress := List.replicate 37 0x61 ++ [0xFF, 0xFF] }

/-- The holder of a lock sets the address with the character that is cut in two, and the other session
reads from its frame what the hub keeps. -/
theorem texts_of_columns_straddled :
    let locked := (openedTogether.apply ⟨1⟩ 99 (.lockNode 5)).2
    let frame := (Frame.build .setNode (.word 5 :: straddled.wireFields)).bytes
    let told := (Notification.nodeUpdated 5 straddled.kept).toFrame
    Request.decode .setNode frame = .ok (.setNode 5 straddled.kept) ∧
      (locked.apply ⟨1⟩ 0 (.setNode 5 straddled.kept)).1 = .ok () ∧
      (locked.apply ⟨1⟩ 0 (.setNode 5 straddled.kept)).2.router.queueOf ⟨2⟩ =
        locked.router.queueOf ⟨2⟩ ++ [told] ∧
      (Read.nodeFields (Cursor.atOffset told.bytes 12)).1 = .ok straddled.kept := by
  intro locked frame told
  have asked : Request.decode .setNode (Frame.build .setNode
      (.word 5 :: straddled.wireFields)).bytes = .ok (.setNode 5 straddled.kept) := by decide_cbv
  have granted : ((openedTogether.apply ⟨1⟩ 99 (.lockNode 5)).2.apply ⟨1⟩ 0
      (.setNode 5 straddled.kept)).1 = .ok () := by decide_cbv
  have reading : ((openedTogether.apply ⟨1⟩ 99 (.lockNode 5)).2.router.listens ⟨2⟩,
      ((openedTogether.apply ⟨1⟩ 99 (.lockNode 5)).2.nodes.get? 5).map
        fun n => n.subscribers.members) = (true, some [⟨1⟩, ⟨2⟩]) := by decide_cbv
  obtain ⟨listens, viewers⟩ := Prod.mk.inj reading
  obtain ⟨-, -, -, -, set⟩ := texts_of_columns locked ⟨1⟩ 0
  obtain ⟨_, _, n, -, -, -, found, -, -, -, round, -, same, -⟩ := set frame 5 _ asked granted
  rw [show (openedTogether.apply ⟨1⟩ 99 (.lockNode 5)).2.nodes.get? 5 = some n from found] at viewers
  have members : n.subscribers.members = [⟨1⟩, ⟨2⟩] := Option.some.inj viewers
  rw [members] at round
  refine ⟨asked, granted, ?_, same.mpr ?_⟩
  · refine (round.queues ⟨2⟩).trans ?_
    rw [show locked.router.listens ⟨2⟩ = true from listens]
    rfl
  · have columns : straddled.kept.columns = [(251, ""), (251, ""), (251, ""), (251, ""), (251, ""),
        (39, (String.ofList (List.replicate 38 'a')).push replacement)] := by decide_cbv
    have empty : (encode "").length ≤ 251 := Nat.zero_le _
    rw [columns]
    simp only [List.forall_mem_cons]
    exact ⟨.inl empty, .inl empty, .inl empty, .inl empty, .inl empty, .inr ⟨_, rfl, by decide_cbv⟩,
      List.forall_mem_nil _⟩

/-- Both addresses are kept longer than their column, and what is announced of the second one is read as
another text. -/
theorem kept_texts_exceed_columns :
    (Read.nodeFields (Cursor.atOffset (Field.encodeAll straddled.wireFields) 0)).1 =
        .ok straddled.kept ∧
      addressCapacity - 1 < (encode straddled.kept.mgmtAddress).length ∧
      (Read.nodeFields (Cursor.atOffset (Field.encodeAll illEnding.wireFields) 0)).1 =
        .ok illEnding.kept ∧
      addressCapacity - 1 < (encode illEnding.kept.mgmtAddress).length ∧
      (Read.nodeFields (Cursor.atOffset
        (Notification.nodeUpdated 5 illEnding.kept).toFrame.bytes 12)).1 ≠ .ok illEnding.kept := by
  decide_cbv

end TopoSync
