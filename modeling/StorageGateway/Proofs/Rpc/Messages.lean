import StorageGateway.Proofs.Json.Records
import StorageGateway.Proofs.Json.RoundTrip
import StorageGateway.Proofs.Rpc.Frames
import StorageGateway.Rpc.Client

/-!
# Messages are read back

A request is read back from its text, except that parameters that are `null` are none. A response is
read back as it is, unless it gives `null` for a result.
-/

namespace StorageGateway.Json

/-- What is read of a member that may be absent. -/
def present? : Json → Option Json
  | .null => none
  | value => some value

theorem present?_of_ne_null {value : Json} (h : value ≠ .null) : value.present? = some value := by
  cases value with
  | null => exact absurd rfl h
  | _ => rfl

theorem Readable.optional {room : Nat} {value : Json} (h : Readable room value) :
    Reader.json.optional (.text room) value.toDocument = .ok value.present? := by
  cases value with
  | null => rfl
  | array items =>
    show (Reader.any (Json.array items).toDocument (.text room)).map some = _
    rw [h.any]
    rfl
  | object members =>
    show (Reader.any (Json.object members).toDocument (.text room)).map some = _
    rw [h.any]
    rfl
  | _ => rfl

theorem Reader.i32_toInt {origin : Origin} (n : Int32) :
    Reader.i32 origin (Json.int n.toInt).toDocument = .ok n := by
  have hholds : (Text.Width.signed 32).holds n.toInt = true := by
    have hleast := n.le_toInt
    have hgreatest := n.toInt_lt
    exact holds_iff.mpr ⟨hleast, by
      show n.toInt ≤ 2147483647
      omega⟩
  have hread : Reader.integer (.signed 32) origin (.number (some (.int n.toInt))) =
      .ok n.toInt := integer_eq_ok_iff.mpr ⟨rfl, hholds⟩
  show (Reader.integer (.signed 32) origin (.number (some (.int n.toInt)))).map Int32.ofInt = _
  rw [hread]
  exact congrArg Except.ok (Int32.ofInt_toInt n)

end StorageGateway.Json

namespace StorageGateway

/-- What a fault is to a caller, who is told its code, its message and its fields. -/
def Fault.told (fault : Fault) : Fault := .ofWire fault.code fault.message fault.data

end StorageGateway

namespace StorageGateway.Rpc

open Json (Readable)

theorem Request.reader_call {room : Nat} {params : Json} (h : Readable room params)
    (method : String) (id : Nat) :
    Request.reader (.text (room + 1)) (Request.call method params id).toJson.toDocument =
      .ok ⟨protocolVersion, method, params.present?, some (.nat id)⟩ := by
  have hparams := h.optional
  have hid : Json.Reader.json.optional (.text room) (Json.nat id).toDocument =
      .ok (some (Json.nat id)) := rfl
  have hjson : (Request.call method params id).toJson = .object
      [("jsonrpc", .string protocolVersion), ("method", .string method), ("params", params),
        ("id", Json.nat id)] := rfl
  rw [hjson, reader, Json.Reader.record_of_entered rfl]
  · simpa [Json.Reader.string_eq_ok_iff, Json.toDocument, List.lookup_cons, hparams] using hid
  · simpa [Json.Reader.string_eq_ok_iff, Json.toDocument] using ⟨⟨_, hparams⟩, _, hid⟩
  · simp

/-! ## Responses -/

/-- A response without an error is read back, except that a result that is `null` is none. -/
theorem Response.reader_success {room : Nat} {result : Json} {id name : Option Json}
    (h : Readable room result)
    (hid : Json.Reader.json.optional (.text room) (Json.orNull id).toDocument = .ok name) :
    Response.reader (.text (room + 1)) (Response.success id result).toJson.toDocument =
      .ok ⟨protocolVersion, result.present?, none, name⟩ := by
  have hread := h.optional
  have hjson : (Response.success id result).toJson = .object
      [("jsonrpc", .string protocolVersion), ("result", result), ("id", .orNull id)] := rfl
  rw [hjson, reader, Json.Reader.record_of_entered rfl]
  · simpa [Json.Reader.string_eq_ok_iff, Json.toDocument, List.lookup_cons, hread] using hid
  · simpa [Json.Reader.string_eq_ok_iff, Json.toDocument] using ⟨⟨_, hread⟩, _, hid⟩
  · simp

theorem ErrorObject.reader_toJson {room : Nat} {error : ErrorObject}
    (h : ∀ data ∈ error.data, Readable room data ∧ data ≠ .null) :
    ErrorObject.reader (.text (room + 1)) error.toJson.toDocument = .ok error := by
  obtain ⟨code, message, data⟩ := error
  have hcode : Json.Reader.i32 (.text room) (Json.int code.toInt).toDocument = .ok code :=
    Json.Reader.i32_toInt code
  cases data with
  | none =>
    have hjson : (⟨code, message, none⟩ : ErrorObject).toJson = .object
        [("code", .int code.toInt), ("message", .string message)] := rfl
    rw [hjson, reader, Json.Reader.record_of_entered rfl]
    · simp [Json.Reader.string_eq_ok_iff, Json.toDocument, List.lookup_cons, hcode]
    · simpa [Json.Reader.string_eq_ok_iff, Json.toDocument] using ⟨_, hcode⟩
    · simp
  | some data =>
    obtain ⟨hreadable, hne⟩ := h data rfl
    have hread : Json.Reader.json.optional (.text room) data.toDocument = .ok (some data) := by
      rw [hreadable.optional, Json.present?_of_ne_null hne]
    have hjson : (⟨code, message, some data⟩ : ErrorObject).toJson = .object
        [("code", .int code.toInt), ("message", .string message), ("data", data)] := rfl
    rw [hjson, reader, Json.Reader.record_of_entered rfl]
    · simp [Json.Reader.string_eq_ok_iff, Json.toDocument, List.lookup_cons, hread, hcode]
    · simpa [Json.Reader.string_eq_ok_iff, Json.toDocument] using ⟨⟨_, hcode⟩, _, hread⟩
    · simp

/-- A response with an error is read back. -/
theorem Response.reader_failure {room : Nat} {error : ErrorObject} {id name : Option Json}
    (h : ∀ data ∈ error.data, Readable room data ∧ data ≠ .null)
    (hid : Json.Reader.json.optional (.text (room + 1)) (Json.orNull id).toDocument = .ok name) :
    Response.reader (.text (room + 2)) (Response.failure id error).toJson.toDocument =
      .ok (Response.failure name error) := by
  have hread : Json.Reader.optional ErrorObject.reader (.text (room + 1)) error.toJson.toDocument =
      .ok (some error) := by
    show (ErrorObject.reader (.text (room + 1)) error.toJson.toDocument).map some = _
    rw [ErrorObject.reader_toJson h]
    rfl
  have hjson : (Response.failure id error).toJson = .object
      [("jsonrpc", .string protocolVersion), ("error", error.toJson), ("id", .orNull id)] := rfl
  rw [hjson, reader, Json.Reader.record_of_entered rfl]
  · simpa [Json.Reader.string_eq_ok_iff, Json.toDocument, List.lookup_cons, hread, failure]
      using hid
  · simpa [Json.Reader.string_eq_ok_iff, Json.toDocument] using ⟨⟨_, hread⟩, _, hid⟩
  · simp

/-! ## Payloads -/

theorem Client.request_of_going {client : Client} (hgoing : client.peerGone = false) {call : Nat}
    {method : String} {params : Json} {frame : Bytes}
    (hframe : Frame.encode (Client.payload call method params) = .ok frame) :
    client.request call method params = .ok frame := by
  unfold Client.request
  rw [hframe]
  dsimp only
  rw [hgoing]
  rfl

/-- A client that has taken all that came before takes the next frame for its answer. -/
theorem Client.takeAnswer_receive {client : Client} (hgoing : client.peerGone = false)
    (htaken : client.arrived = []) {payload frame : Bytes}
    (hframe : Frame.encode payload = .ok frame) :
    (client.receive frame false).takeAnswer = some (Client.outcome payload, client) := by
  obtain ⟨address, nextCall, arrived, peerGone⟩ := client
  obtain rfl : arrived = [] := htaken
  obtain rfl : peerGone = false := hgoing
  have hfront := Frame.front_frame hframe []
  rw [List.append_nil] at hfront
  show (⟨address, nextCall, frame, false⟩ : Client).takeAnswer = _
  unfold Client.takeAnswer
  rw [hfront]

theorem Client.number_lt (client : Client) : client.number.1 < 2 ^ 64 := client.nextCall.toNat_lt

/-- The number of a call as its requests and answers name it. -/
theorem legible_nat {id : Nat} (hid : id < 2 ^ 64) : (Json.nat id).Legible :=
  .number (Json.Token.numberReadsBack_int (by omega) (by omega))

/-- The payload of a call is read as the request that was made. -/
theorem ofBytes_payload {params : Json} {room : Nat} (h : Readable room params)
    (hroom : room < Json.greatestDepth) {id : Nat} (hid : id < 2 ^ 64) (method : String) :
    Request.reader.ofBytes (Client.payload id method params) =
      .ok ⟨protocolVersion, method, params.present?, some (.nat id)⟩ := by
  have hlegible : (Request.call method params id).toJson.Legible := by
    refine .object ?_
    simp only [List.forall_mem_cons]
    exact ⟨.string _, .string _, h.legible, legible_nat hid, List.forall_mem_nil _⟩
  have hread := Request.reader_call (h.mono (Nat.le_sub_one_of_lt hroom)) method id
  exact (Json.Reader.ofBytes_render hlegible Request.reader).trans hread

/-- What is read of the value of a response is read of its text. -/
theorem ofBytes_text {response read : Response} (hlegible : response.toJson.Legible)
    (hread : Response.reader (.text Json.greatestDepth) response.toJson.toDocument = .ok read) :
    Response.reader.ofBytes (Text.Utf8.encode response.text) = .ok read :=
  (Json.Reader.ofBytes_render hlegible Response.reader).trans hread

/-- The payload of a response without an error. -/
theorem ofBytes_success {result : Json} {room : Nat} {id name : Option Json}
    (h : Readable room result) (hroom : room < Json.greatestDepth)
    (hlegible : (Json.orNull id).Legible)
    (hid : Json.Reader.json.optional (.text (Json.greatestDepth - 1)) (Json.orNull id).toDocument =
      .ok name) :
    Response.reader.ofBytes (Text.Utf8.encode (Response.success id result).text) =
      .ok ⟨protocolVersion, result.present?, none, name⟩ := by
  have hwhole : (Response.success id result).toJson.Legible := by
    refine .object ?_
    show ∀ m ∈ [("jsonrpc", Json.string protocolVersion), ("result", result),
      ("id", Json.orNull id)], Json.Legible m.2
    simp only [List.forall_mem_cons]
    exact ⟨.string _, h.legible, hlegible, List.forall_mem_nil _⟩
  exact ofBytes_text hwhole (Response.reader_success (h.mono (Nat.le_sub_one_of_lt hroom)) hid)

/-- A result that is more than nothing reaches whoever called. -/
theorem outcome_success {result : Json} {room : Nat} (h : Readable room result)
    (hroom : room < Json.greatestDepth) (hresult : result ≠ .null) {id : Nat} (hid : id < 2 ^ 64) :
    Client.outcome (Text.Utf8.encode (Response.success (some (.nat id)) result).text) =
      .ok result := by
  have hread := @ofBytes_success _ _ (some (.nat id)) _ h hroom (legible_nat hid) rfl
  unfold Client.outcome
  rw [hread, Json.present?_of_ne_null hresult]

/-- Texts under sorted names are held by texts, and more than nothing. -/
theorem readable_texts {members : List (String × String)}
    (hsorted : (members.map Prod.fst).Pairwise (· < ·)) :
    Readable 1 (.object (members.map fun m => (m.1, .string m.2))) := by
  refine .object (List.pairwise_map.mpr (List.pairwise_map.mp hsorted)) fun member hmember => ?_
  obtain ⟨m, -, rfl⟩ := List.mem_map.mp hmember
  exact .string 0 m.2

/-- The fields of a fault are texts under sorted names. -/
theorem readable_data {fault : Fault} {data : Json} (h : fault.data = some data) :
    Readable 1 data ∧ data ≠ .null := by
  cases fault
  case invalidArgument message =>
    cases h
    exact ⟨@readable_texts [("message", message)] (List.pairwise_singleton _ _), Json.noConfusion⟩
  case methodNotFound method =>
    cases h
    exact ⟨@readable_texts [("method", method)] (List.pairwise_singleton _ _), Json.noConfusion⟩
  case notFound what =>
    cases h
    exact ⟨@readable_texts [("what", what)] (List.pairwise_singleton _ _), Json.noConfusion⟩
  case unsupportedVersion operation version minimum =>
    cases h
    have hsorted : ["minimum", "operation", "version"].Pairwise (· < ·) := by decide
    exact ⟨@readable_texts
      [("minimum", minimum), ("operation", operation), ("version", version)] hsorted,
      Json.noConfusion⟩
  case unrepresentable field message =>
    cases h
    have hsorted : ["field", "message"].Pairwise (· < ·) := by decide
    exact ⟨@readable_texts [("field", field), ("message", message)] hsorted, Json.noConfusion⟩
  -- No other fault has fields.
  all_goals cases h

theorem ErrorObject.legible_toJson {error : ErrorObject} (h : ∀ data ∈ error.data, data.Legible) :
    error.toJson.Legible := by
  have hcode : (Json.int error.code.toInt).Legible := by
    have hleast := error.code.le_toInt
    have hgreatest := error.code.toInt_lt
    exact .number (Json.Token.numberReadsBack_int (by omega) (by omega))
  refine .object ?_
  obtain ⟨code, message, data⟩ := error
  cases data with
  | none =>
    show ∀ m ∈ [("code", Json.int code.toInt), ("message", .string message)], Json.Legible m.2
    simp only [List.forall_mem_cons]
    exact ⟨hcode, .string _, List.forall_mem_nil _⟩
  | some data =>
    show ∀ m ∈ [("code", Json.int code.toInt), ("message", .string message), ("data", data)],
      Json.Legible m.2
    simp only [List.forall_mem_cons]
    exact ⟨hcode, .string _, h data rfl, List.forall_mem_nil _⟩

/-- The payload of a response with an error. -/
theorem ofBytes_failure {error : ErrorObject} {id name : Option Json}
    (h : ∀ data ∈ error.data, Readable (Json.greatestDepth - 2) data ∧ data ≠ .null)
    (hlegible : (Json.orNull id).Legible)
    (hid : Json.Reader.json.optional (.text (Json.greatestDepth - 1)) (Json.orNull id).toDocument =
      .ok name) :
    Response.reader.ofBytes (Text.Utf8.encode (Response.failure id error).text) =
      .ok (Response.failure name error) := by
  have herror := ErrorObject.legible_toJson fun data hin => (h data hin).1.legible
  have hwhole : (Response.failure id error).toJson.Legible := by
    refine .object ?_
    show ∀ m ∈ [("jsonrpc", Json.string protocolVersion), ("error", error.toJson),
      ("id", Json.orNull id)], Json.Legible m.2
    simp only [List.forall_mem_cons]
    exact ⟨.string _, herror, hlegible, List.forall_mem_nil _⟩
  exact ofBytes_text hwhole (Response.reader_failure h hid)

/-- What a response says about a failure reaches whoever called. -/
theorem outcome_failure {error : ErrorObject}
    (h : ∀ data ∈ error.data, Readable (Json.greatestDepth - 2) data ∧ data ≠ .null) {id : Nat}
    (hid : id < 2 ^ 64) :
    Client.outcome (Text.Utf8.encode (Response.failure (some (.nat id)) error).text) =
      .error error.fault := by
  have hread := @ofBytes_failure _ (some (.nat id)) _ h (legible_nat hid) rfl
  unfold Client.outcome
  rw [hread]
  rfl

/-- The fields of a fault are read back within a response. -/
theorem readable_data_ofFault (fault : Fault) :
    ∀ data ∈ (ErrorObject.ofFault fault).data,
      Readable (Json.greatestDepth - 2) data ∧ data ≠ .null := by
  intro data hdata
  obtain ⟨hreadable, hne⟩ := readable_data hdata
  exact ⟨hreadable.mono (by decide), hne⟩

/-- Of a fault, its code, its message and its fields reach whoever called. -/
theorem outcome_ofFault (fault : Fault) {id : Nat} (hid : id < 2 ^ 64) :
    Client.outcome (Text.Utf8.encode (Response.ofFault (some (.nat id)) fault).text) =
      .error fault.told :=
  outcome_failure (readable_data_ofFault fault) hid

/-! ## Whole messages -/

/-- Exactly one of the result and the error is there. -/
def Response.Decided (response : Response) : Prop :=
  response.result.isSome = !response.error.isSome

/-- Within the limits of texts (`Readable`), messages are read back from their payloads: by
`Request.reader` a request with its parameters, and by `Response.reader` a response with its name
and with exactly one of its result and its error (`Response.Decided`), unless its result is `null`,
which leaves neither. Where parameters or a name are `null`, there are none. -/
theorem messages_are_read_back (method : String) (params : Json) (number : UInt64)
    (id : Option Json) (result : Json) (fault : Fault) :
    (∀ room, Readable room params → room < Json.greatestDepth →
      ∃ read, Request.reader.ofBytes
          (Text.Utf8.encode (Request.call method params number.toNat).text) = .ok read ∧
        (params ≠ .null → read = Request.call method params number.toNat) ∧
        (params = .null → read =
          { Request.call method params number.toNat with params := none })) ∧
    ∀ room, Readable room (.orNull id) → room < Json.greatestDepth →
      (∀ room, Readable room result → room < Json.greatestDepth →
        ∃ read, Response.reader.ofBytes (Text.Utf8.encode (Response.success id result).text) =
            .ok read ∧
          (read = Response.success (id.bind Json.present?) result ↔ result ≠ .null) ∧
          (read.Decided ↔ result ≠ .null)) ∧
      Response.reader.ofBytes (Text.Utf8.encode (Response.ofFault id fault).text) =
        .ok (Response.ofFault (id.bind Json.present?) fault) ∧
      (Response.ofFault (id.bind Json.present?) fault).Decided := by
  refine ⟨fun room h hroom => ?_, fun room hname hroom => ?_⟩
  · refine ⟨_, ofBytes_payload h hroom number.toNat_lt method, fun hparams => ?_, ?_⟩
    · rw [Json.present?_of_ne_null hparams]
      rfl
    · rintro rfl
      rfl
  have hid : Json.Reader.json.optional (.text (Json.greatestDepth - 1))
      (Json.orNull id).toDocument = .ok (id.bind Json.present?) := by
    rw [(hname.mono (Nat.le_sub_one_of_lt hroom)).optional]
    cases id <;> rfl
  refine ⟨fun room h hroom => ?_, ?_, rfl⟩
  · refine ⟨_, ofBytes_success h hroom hname.legible hid, ?_⟩
    by_cases hresult : result = .null
    · obtain rfl := hresult
      exact ⟨iff_of_false nofun (not_not.mpr rfl), iff_of_false nofun (not_not.mpr rfl)⟩
    · rw [Json.present?_of_ne_null hresult]
      exact ⟨iff_of_true rfl hresult, iff_of_true rfl hresult⟩
  · exact ofBytes_failure (readable_data_ofFault fault) hname.legible hid

/-- A result that is `null` is read as none, and then neither a result nor an error is there;
parameters that are `null` are none as well. -/
theorem null_is_not_read_back :
    (∃ response, Response.reader.ofBytes
        (Text.Utf8.encode (Response.success (some (.nat 1)) .null).text) = .ok response ∧
      ¬ response.Decided) ∧
    ∃ request, Request.reader.ofBytes (Text.Utf8.encode (Request.call "m" .null 1).text) =
        .ok request ∧ request.params = none ∧ (Request.call "m" .null 1).params = some .null := by
  have hresponse := @ofBytes_success _ _ (some (.nat 1)) _ (.null 0) (by decide)
    (legible_nat (by decide)) rfl
  have hrequest := @ofBytes_payload .null 0 (.null 0) (by decide) 1 (by decide) "m"
  refine ⟨⟨_, hresponse, fun hdecided => ?_⟩, ⟨_, hrequest, rfl, rfl⟩⟩
  cases hdecided

end StorageGateway.Rpc
