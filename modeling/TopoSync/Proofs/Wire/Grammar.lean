import TopoSync.Proofs.Wire.Layouts
import TopoSync.Wire.Request

/-!
# The grammar of requests

Each command has a layout, and the fields of an instance of the layout say what is asked for.  A frame
is a request exactly if the bytes after its header begin with an instance of the layout; otherwise the
first field that does not fit is reported.
-/

namespace TopoSync

/-- The fields that follow the header of a request. -/
def Command.layout : Command → Layout
  | login => [.block, .block]
  | openMap | closeMap | openNode | closeNode | lockNode | unlockNode => [.word]
  | deleteSymbol | deleteConnection => [.word, .word]
  | renameSymbol | renameConnection => [.word, .word, .word]
  | addSymbol | translateSymbol | addConnection => [.word, .word, .word, .word]
  | setNode =>
      [.word, .block, .block, .block, .block, .block, .byte, .block, .word, .word]
  | getMapList | addMap | renameMap | deleteMap | editConnection | addNode | deleteNode
  | updateNode => []

namespace Request

/-- The bytes of a block that are kept, as a text. -/
def keep (most : Nat) (bytes : Bytes) : String :=
  Utf8.lossy (bytes.take most)

/-- What the fields of a command ask for. -/
def ofFields? : Command → List Field → Option Request
  | .login, [.block name, .block password] => some (.login (keep 255 name) (keep 255 password))
  | .getMapList, [] => some .getMapList
  | .openMap, [.word map] => some (.openMap map.toInt32)
  | .closeMap, [.word map] => some (.closeMap map.toInt32)
  | .addSymbol, [.word map, .word id, .word x, .word y] =>
      some (.addSymbol map.toInt32 id.toInt32 x.toInt32 y.toInt32)
  | .renameSymbol, [.word map, .word old, .word new] =>
      some (.renameSymbol map.toInt32 old.toInt32 new.toInt32)
  | .deleteSymbol, [.word map, .word id] => some (.deleteSymbol map.toInt32 id.toInt32)
  | .translateSymbol, [.word map, .word id, .word dx, .word dy] =>
      some (.translateSymbol map.toInt32 id.toInt32 dx.toInt32 dy.toInt32)
  | .addConnection, [.word map, .word id, .word sym0, .word sym1] =>
      some (.addConnection map.toInt32 id.toInt32 sym0.toInt32 sym1.toInt32)
  | .renameConnection, [.word map, .word old, .word new] =>
      some (.renameConnection map.toInt32 old.toInt32 new.toInt32)
  | .deleteConnection, [.word map, .word id] => some (.deleteConnection map.toInt32 id.toInt32)
  | .openNode, [.word node] => some (.openNode node)
  | .closeNode, [.word node] => some (.closeNode node)
  | .setNode, [.word node, .block objectId, .block name, .block contact, .block location,
      .block description, .byte forwarding, .block mgmtAddress, .word mgmtFlags, .word topoFlags] =>
      some (.setNode node
        ⟨keep 251 objectId, keep 251 name, keep 251 contact, keep 251 location, keep 251 description,
          forwarding != 0, keep 39 mgmtAddress, mgmtFlags, topoFlags⟩)
  | .lockNode, [.word node] => some (.lockNode node)
  | .unlockNode, [.word node] => some (.unlockNode node)
  | .addMap, [] => some (.unsupported .addMap)
  | .renameMap, [] => some (.unsupported .renameMap)
  | .deleteMap, [] => some (.unsupported .deleteMap)
  | .editConnection, [] => some (.unsupported .editConnection)
  | .addNode, [] => some (.unsupported .addNode)
  | .deleteNode, [] => some (.unsupported .deleteNode)
  | .updateNode, [] => some (.unsupported .updateNode)
  | _, _ => none

end Request

namespace Read

/-- The payload of a request is read field by field, and says what the fields ask for. -/
theorem obeys_request (c : Command) : Obeys (request c) c.layout (Request.ofFields? c) := by
  cases c with
  | login => exact .boundedText fun _ => .boundedText fun _ => .pure rfl
  | getMapList => exact .pure rfl
  | openMap => exact .signed fun _ => .pure rfl
  | closeMap => exact .signed fun _ => .pure rfl
  | addSymbol => exact .signed fun _ => .signed fun _ => .signed fun _ => .signed fun _ => .pure rfl
  | renameSymbol => exact .signed fun _ => .signed fun _ => .signed fun _ => .pure rfl
  | deleteSymbol => exact .signed fun _ => .signed fun _ => .pure rfl
  | translateSymbol =>
      exact .signed fun _ => .signed fun _ => .signed fun _ => .signed fun _ => .pure rfl
  | addConnection =>
      exact .signed fun _ => .signed fun _ => .signed fun _ => .signed fun _ => .pure rfl
  | renameConnection => exact .signed fun _ => .signed fun _ => .signed fun _ => .pure rfl
  | deleteConnection => exact .signed fun _ => .signed fun _ => .pure rfl
  | openNode => exact .word fun _ => .pure rfl
  | closeNode => exact .word fun _ => .pure rfl
  | lockNode => exact .word fun _ => .pure rfl
  | unlockNode => exact .word fun _ => .pure rfl
  | setNode =>
      refine .word fun node => ?_
      simp only [nodeFields, bind_assoc, pure_bind]
      exact .boundedText fun _ => .boundedText fun _ => .boundedText fun _ => .boundedText fun _ =>
        .boundedText fun _ => .byte fun _ => .boundedText fun _ => .word fun _ => .word fun _ =>
          .pure rfl
  | addMap => exact .pure rfl
  | renameMap => exact .pure rfl
  | deleteMap => exact .pure rfl
  | editConnection => exact .pure rfl
  | addNode => exact .pure rfl
  | deleteNode => exact .pure rfl
  | updateNode => exact .pure rfl

end Read

namespace Request

section Decoding

variable {c : Command} {frame rest : Bytes} {fields : List Field} {e : Truncated}

/-- The position of the first byte after the header. -/
theorem atOffset_headerSize (frame : Bytes) :
    Cursor.atOffset frame Frame.headerSize = ⟨min 8 frame.length, frame.drop 8⟩ :=
  rfl

/-- A frame whose payload begins with an instance of the layout is the request that it means. -/
theorem decode_of_admits (payload : frame.drop 8 = Field.encodeAll fields ++ rest)
    (ok : c.layout.Admits fields) :
    ∃ r, ofFields? c fields = some r ∧ decode c frame = .ok r := by
  have obeys := Read.obeys_request c (Cursor.atOffset frame Frame.headerSize)
  rw [atOffset_headerSize, payload, Read.reads_fields ok] at obeys
  obtain ⟨r, means, read⟩ := obeys
  refine ⟨r, means, ?_⟩
  rw [decode, atOffset_headerSize, payload, read]

/-- A frame whose payload falls short of the layout is refused for the field that does not fit. -/
theorem decode_of_lacks (short : c.layout.Lacks (min 8 frame.length) (frame.drop 8) e) :
    decode c frame = .error e := by
  have obeys := Read.obeys_request c (Cursor.atOffset frame Frame.headerSize)
  obtain ⟨_, fails⟩ := Read.fields_of_lacks short
  rw [atOffset_headerSize, fails] at obeys
  exact obeys

/-- The grammar of requests: a frame is a request exactly if its payload begins with an instance of
the layout of its command, and is the one that the instance means.  Every instance means a request,
whatever stands in the header and after it.  A frame is refused exactly if its payload falls short of
the layout, for the first field that does not fit.  The bytes of the header play no part. -/
theorem decode_iff_layout (c : Command) (frame : Bytes) :
    (∀ r, decode c frame = .ok r ↔ ∃ fields rest,
      frame.drop 8 = Field.encodeAll fields ++ rest ∧ c.layout.Admits fields ∧
        ofFields? c fields = some r) ∧
    (∀ fields, c.layout.Admits fields → ∃ r, ofFields? c fields = some r ∧
      ∀ header rest, header.length = 8 →
        decode c (header ++ Field.encodeAll fields ++ rest) = .ok r) ∧
    (∀ e, decode c frame = .error e ↔ c.layout.Lacks (min 8 frame.length) (frame.drop 8) e) ∧
    ∀ other : Bytes, other.length = frame.length → other.drop 8 = frame.drop 8 →
      decode c other = decode c frame := by
  have either := c.layout.admits_or_lacks (min 8 frame.length) (frame.drop 8)
  refine ⟨fun r => ⟨fun accepted => ?_, ?_⟩, fun fields ok => ?_,
    fun e => ⟨fun refused => ?_, decode_of_lacks⟩, fun other length payload => ?_⟩
  · rcases either with ⟨fields, rest, ok, payload⟩ | ⟨e, short⟩
    · obtain ⟨r', means, read⟩ := decode_of_admits payload ok
      rw [read] at accepted
      cases accepted
      exact ⟨fields, rest, payload, ok, means⟩
    · rw [decode_of_lacks short] at accepted
      cases accepted
  · rintro ⟨fields, rest, payload, ok, means⟩
    obtain ⟨r', means', read⟩ := decode_of_admits payload ok
    rw [means] at means'
    cases means'
    exact read
  · have admitted : ∀ header rest : Bytes, header.length = 8 →
        ∃ r, ofFields? c fields = some r ∧
          decode c (header ++ Field.encodeAll fields ++ rest) = .ok r := by
      intro header rest eight
      have payload : (header ++ Field.encodeAll fields ++ rest).drop 8 =
          Field.encodeAll fields ++ rest := by rw [List.append_assoc, List.drop_left' eight]
      exact decode_of_admits payload ok
    obtain ⟨r, means, _⟩ := admitted (List.replicate 8 0) [] rfl
    refine ⟨r, means, fun header rest eight => ?_⟩
    obtain ⟨r', means', read⟩ := admitted header rest eight
    rw [means] at means'
    cases means'
    exact read
  · rcases either with ⟨fields, rest, ok, payload⟩ | ⟨e', short⟩
    · obtain ⟨r, _, read⟩ := decode_of_admits payload ok
      rw [read] at refused
      cases refused
    · rw [decode_of_lacks short] at refused
      cases refused
      exact short
  · rw [decode, decode, atOffset_headerSize, atOffset_headerSize, length, payload]

end Decoding

end Request

end TopoSync
