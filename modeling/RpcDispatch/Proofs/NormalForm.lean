import RpcDispatch.Endpoint.Json
import RpcDispatch.Log.Format
import RpcDispatch.Proofs.Json.Variants
import RpcDispatch.Proofs.Rpc.Outbound

/-
This file says that what was read of a type can be written and is then read as the same again,
whatever form it was read from.
-/

namespace RpcDispatch

open Json (Portable FloatFree ValueText Decoder)

variable {depth : Nat}

/-- Reading reaches a normal form.  A value that was read from whatever text is read again from the
text that is printed for it, where the value is plain; and what is read there, and read back from
its printed text, are the values that can be kept. -/
structure Json.Decoder.Settles {α : Type} (decoder : Decoder α) (chars : α → List Char)
    (plain kept : α → Prop) : Prop where
  again : ∀ input value, decoder.ofBytes input = .ok value → plain value →
    decoder.ofBytes (Text.Utf8.encode (String.ofList (chars value))) = .ok value
  yields : ∀ input value, decoder.ofBytes input = .ok value → plain value → kept value
  reads : ∀ value, kept value →
    decoder.ofBytes (Text.Utf8.encode (String.ofList (chars value))) = .ok value

/-- A decoder settles if what it yields is what it reads from printed forms. -/
theorem Json.Decoder.Yields.settles {α : Type} {decoder : Decoder α} {chars : α → List Char}
    {plain kept : α → Prop}
    (yields : decoder.Yields Json.maxDepth fun value => plain value → kept value)
    (reads : ∀ value, kept value → decoder.Reads Json.maxDepth (chars value) value) :
    decoder.Settles chars plain kept := by
  have keeps (input : Bytes) (value : α) (read : decoder.ofBytes input = .ok value)
      (isPlain : plain value) : kept value := yields.ofBytes read isPlain
  have printed (value : α) (isKept : kept value) :
      decoder.ofBytes (Text.Utf8.encode (String.ofList (chars value))) = .ok value := by
    rw [Text.Utf8.encode, String.toList_ofList]
    exact (reads value isKept).ofBytes
  exact ⟨fun input value read isPlain => printed value (keeps input value read isPlain), keeps,
    printed⟩

/-- A decoder that reads every printed result settles without any condition on what it reads. -/
theorem Json.Decoder.settles_of_reads {α : Type} {decoder : Decoder α} {chars : α → List Char}
    (reads : ∀ value, decoder.Reads Json.maxDepth (chars value) value) :
    decoder.Settles chars (fun _ => True) (fun _ => True) := by
  have yields : decoder.Yields Json.maxDepth fun _ => True → True := fun _ _ _ _ _ => id
  exact yields.settles fun value _ => reads value

/-- A text keeps every signed integer of 64 bits. -/
theorem Json.Number.isExact_of_signed {value : Int}
    (bounds : -0x8000000000000000 ≤ value ∧ value ≤ 0x7FFFFFFFFFFFFFFF) :
    Json.Number.isExact value = true := by
  simp only [Json.Number.isExact, Bool.and_eq_true, decide_eq_true_eq]
  omega

/-! ### Identifiers -/

namespace Rpc

/-- An identifier that is read fits the range of identifiers. -/
theorem Id.decoder_yields : Id.decoder.Yields depth Id.Fits :=
  Decoder.untagged_yields.mono fun _ ⟨_, took⟩ => (identifies_some_iff.mpr took).fits

/-- An identifier in range is read from its printed form. -/
theorem Id.decoder_reads {id : Id} (fits : id.Fits) : Id.decoder.Reads depth id.toValue.chars id :=
  Decoder.untagged_reads (fits.portable depth) (identifies_some_iff.mp fits.identifies)

/-! ### Requests -/

namespace Message

/-- A request that a text can keep. -/
def Kept (depth : Nat) (message : Message) : Prop :=
  message.id.Fits ∧ Portable depth message.params

/-- What is known of the fields that have been read. -/
structure Draft.Sound (depth : Nat) (draft : Draft) : Prop where
  params : ∀ params ∈ draft.params, ∃ written, ValueText depth params written
  id : ∀ id ∈ draft.id, id.Fits

/-- The fields of a message keep the draft sound. -/
theorem decoder_keeps : record.Keeps depth (Draft.Sound depth) := by
  simp only [Json.Record.Keeps, record, List.forall_mem_cons]
  refine ⟨?_, ?_, ?_, ?_, List.forall_mem_nil _⟩
  · exact .map (Decoder.scalar_yields.mono fun _ _ draft sound => ⟨sound.params, sound.id⟩)
  · exact .map (Decoder.scalar_yields.mono fun _ _ draft sound => ⟨sound.params, sound.id⟩)
  · refine .map (Decoder.value_yields.mono fun value form draft sound => ⟨?_, sound.id⟩)
    rintro _ ⟨⟩
    exact form
  · refine .map (Id.decoder_yields.mono fun id fits draft sound => ⟨sound.params, ?_⟩)
    rintro _ ⟨⟩
    exact fits

/-- A message that is read is kept when its parameters are free of floats. -/
theorem decoder_yields : decoder.Yields (depth + 1) fun message =>
    FloatFree message.params → message.Kept depth := by
  refine record.decoder_yields decoder_keeps ⟨nofun, nofun⟩ ?_
  rintro ⟨jsonrpc, method, params, id⟩ message sound built plain
  cases jsonrpc with
  | none => cases built
  | some jsonrpc =>
      cases method with
      | none => cases built
      | some method =>
          cases built
          constructor
          · cases id with
            | none => trivial
            | some id => exact sound.id id rfl
          · cases params with
            | none => exact .null
            | some params =>
                obtain ⟨written, form⟩ := sound.params params rfl
                exact form.portable plain

/-- A kept message is read from its printed form. -/
theorem decoder_reads {message : Message} (kept : message.Kept depth) :
    decoder.Reads (depth + 1) message.chars message := by
  obtain ⟨fits, portable⟩ := kept
  obtain ⟨jsonrpc, method, params, id⟩ := message
  let held : Option Json.Value := if params.isNull then none else some params
  let named : Option Id := if id.isEmpty then none else some id
  have supported : record.Fills depth record.empty
      [Json.memberChars "jsonrpc" (Json.stringChars jsonrpc)] { jsonrpc := some jsonrpc } :=
    .field rfl rfl (Decoder.string_reads jsonrpc) rfl
  have called : record.Fills depth { jsonrpc := some jsonrpc }
      [Json.memberChars "method" (Json.stringChars method)]
      { jsonrpc := some jsonrpc, method := some method } :=
    .field rfl rfl (Decoder.string_reads method) rfl
  have given : record.Fills depth { jsonrpc := some jsonrpc, method := some method }
      (if params.isNull then [] else [Json.memberChars "params" params.chars])
      { jsonrpc := some jsonrpc, method := some method, params := held } := by
    unfold held
    split
    · exact .nil
    · exact .field rfl rfl (Decoder.value_reads portable) rfl
  have identified : record.Fills depth
      { jsonrpc := some jsonrpc, method := some method, params := held }
      (if id.isEmpty then [] else [Json.memberChars "id" id.toValue.chars])
      { jsonrpc := some jsonrpc, method := some method, params := held, id := named } := by
    unfold named
    split
    · exact .nil
    · exact .field rfl rfl (Id.decoder_reads fits) rfl
  refine record.decoder_reads (((supported.append called).append given).append identified) ?_
  -- what was left out has the default value
  have null : held.getD .null = params := by cases params <;> rfl
  have absent : named.getD .absent = id := by cases id <;> rfl
  change Except.ok (Message.mk jsonrpc method (held.getD .null) (named.getD .absent)) = _
  rw [null, absent]

end Message

/-! ### Errors -/

/-- A violation is read from its printed form. -/
theorem Violation.decoder_reads (violation : Violation) :
    record.decoder.Reads (depth + 1) violation.chars violation := by
  obtain ⟨path, message⟩ := violation
  have placed : record.Fills depth record.empty
      [Json.memberChars "path" (Json.stringChars path)] { path := some path } :=
    .field rfl rfl (Decoder.string_reads path) rfl
  have worded : record.Fills depth { path := some path }
      [Json.memberChars "message" (Json.stringChars message)]
      { path := some path, message := some message } :=
    .field rfl rfl (Decoder.string_reads message) rfl
  exact record.decoder_reads (placed.append worded) rfl

namespace ErrorPayload

/-- An error that a text can keep.  Null data would be read as no data. -/
structure Kept (depth : Nat) (payload : ErrorPayload) : Prop where
  code : -0x8000000000000000 ≤ payload.code ∧ payload.code ≤ 0x7FFFFFFFFFFFFFFF
  data : ∀ data ∈ payload.data, data ≠ .null ∧ Portable depth data

/-- What is known of the fields that have been read. -/
structure Draft.Sound (depth : Nat) (draft : Draft) : Prop where
  code : ∀ code ∈ draft.code, -0x8000000000000000 ≤ code ∧ code ≤ 0x7FFFFFFFFFFFFFFF
  data : ∀ data ∈ draft.data.join, data ≠ .null ∧ ∃ written, ValueText depth data written

/-- The fields of an error payload keep the draft sound. -/
theorem decoder_keeps : record.Keeps depth (Draft.Sound depth) := by
  simp only [Json.Record.Keeps, record, List.forall_mem_cons]
  refine ⟨?_, ?_, ?_, List.forall_mem_nil _⟩
  · refine .map (Decoder.integer_yields.mono fun code bounds draft sound => ⟨?_, sound.data⟩)
    rintro _ ⟨⟩
    exact bounds
  · exact .map (Decoder.scalar_yields.mono fun _ _ draft sound => ⟨sound.code, sound.data⟩)
  · exact .map (Decoder.option_value_yields.mono fun data kept draft sound => ⟨sound.code, kept⟩)

/-- An error payload that is read is kept when its data is free of floats. -/
theorem decoder_yields : record.decoder.Yields (depth + 1) fun payload =>
    (∀ data ∈ payload.data, FloatFree data) → payload.Kept depth := by
  refine record.decoder_yields decoder_keeps ⟨nofun, nofun⟩ ?_
  rintro ⟨code, message, data⟩ payload sound built plain
  cases code with
  | none => cases built
  | some code =>
      cases message with
      | none => cases built
      | some message =>
          cases built
          refine ⟨sound.code code rfl, fun data found => ?_⟩
          obtain ⟨notNull, written, form⟩ := sound.data data found
          exact ⟨notNull, form.portable (plain data found)⟩

/-- A kept error payload is read from its printed form. -/
theorem decoder_reads {payload : ErrorPayload} (kept : payload.Kept depth) :
    record.decoder.Reads (depth + 1) payload.chars payload := by
  obtain ⟨bounds, kept⟩ := kept
  obtain ⟨code, message, data⟩ := payload
  have coded : record.Fills depth record.empty
      [Json.memberChars "code" (Json.integerChars code)] { code := some code } :=
    .field rfl rfl (Decoder.integer_reads bounds (Json.Number.isExact_of_signed bounds)) rfl
  have worded : record.Fills depth { code := some code }
      [Json.memberChars "message" (Json.stringChars message)]
      { code := some code, message := some message } :=
    .field rfl rfl (Decoder.string_reads message) rfl
  cases data with
  | none => exact record.decoder_reads (coded.append worded) rfl
  | some data =>
      obtain ⟨notNull, portable⟩ := kept data rfl
      have given : record.Fills depth { code := some code, message := some message }
          [Json.memberChars "data" data.chars]
          { code := some code, message := some message, data := some (some data) } :=
        .field rfl rfl (Decoder.option_value_reads portable notNull) rfl
      exact record.decoder_reads ((coded.append worded).append given) rfl

end ErrorPayload

end Rpc

/-! ### Endpoints and formats -/

namespace Endpoint

/-- An endpoint is read from an object with its transport in front of its fields. -/
theorem variant_reads {name : String} {variant : Json.Variant Endpoint}
    {members : List (String × Json.Value)} {endpoint : Endpoint}
    (listed : [("unix", unixRecord.variant), ("tcp", tcpRecord.variant)].lookup name = some variant)
    (others : ∀ member ∈ members, member.1 ≠ "transport" ∧ Portable depth member.2)
    (built : variant.ofMembers members = .ok endpoint) :
    decoder.Reads (depth + 1) (Json.objectChars
      (Json.memberChars "transport" (Json.stringChars name) :: Json.membersChars members))
      endpoint := by
  unfold decoder
  exact Json.Tagged.decoder_reads listed others built

/-- A socket path is read from its printed form. -/
theorem unix_reads (path : String) :
    decoder.Reads (depth + 1) (Endpoint.unix path).chars (.unix path) := by
  have members : ∀ member ∈ [("path", Json.Value.string path)],
      member.1 ≠ "transport" ∧ Portable depth member.2 := by
    simp only [List.forall_mem_cons]
    exact ⟨⟨by decide, .string path⟩, List.forall_mem_nil _⟩
  have built : unixRecord.variant.ofMembers [("path", .string path)] = .ok (.unix path) := rfl
  have listed : [("unix", unixRecord.variant), ("tcp", tcpRecord.variant)].lookup "unix" =
      some unixRecord.variant := rfl
  have reads := variant_reads listed members built
  simp only [Json.membersChars, Json.Value.chars] at reads
  exact reads

/-- A port is in the range of the integers that are read for it. -/
theorem port_bounds (port : UInt16) :
    0 ≤ (port.toNat : Int) ∧ (port.toNat : Int) ≤ 65535 := by
  have small := port.toNat_lt
  omega

/-- A host and a port make an endpoint. -/
theorem tcpRecord_ofMembers (host : String) (port : UInt16) :
    tcpRecord.ofMembers [("host", .string host), ("port", .integer port.toNat)] =
      .ok (.tcp host port) := by
  have read : (Decoder.integer 0 65535 "u16").ofValue (.integer port.toNat) = .ok port.toNat :=
    if_pos (port_bounds port)
  have hosted : tcpRecord.takeMember tcpRecord.empty ("host", .string host) =
    .ok { host := some host } := rfl
  have ported : tcpRecord.takeMember { host := some host } ("port", .integer port.toNat) = _ :=
    Json.Record.takeMember_map
      (fun number (draft : Draft) => { draft with port := some (UInt16.ofNat number.toNat) })
      (.integer 0 65535 "u16") rfl rfl rfl (.integer port.toNat)
  rw [read] at ported
  simp only [Except.map, Int.toNat_natCast, UInt16.ofNat_toNat] at ported
  have taken : [("host", Json.Value.string host), ("port", .integer port.toNat)].foldlM
      tcpRecord.takeMember tcpRecord.empty = .ok { host := some host, port := some port } := by
    rw [List.foldlM_cons, hosted]
    exact congrArg (· >>= pure) ported
  rw [Json.Record.ofMembers, taken]
  rfl

/-- A host and a port are read from their printed form. -/
theorem tcp_reads (host : String) (port : UInt16) :
    decoder.Reads (depth + 1) (Endpoint.tcp host port).chars (.tcp host port) := by
  have exact : Json.Number.isExact port.toNat = true := by
    have bounds := port_bounds port
    exact Json.Number.isExact_of_signed ⟨by omega, by omega⟩
  have members : ∀ member ∈ [("host", Json.Value.string host), ("port", .integer port.toNat)],
      member.1 ≠ "transport" ∧ Portable depth member.2 := by
    simp only [List.forall_mem_cons]
    exact ⟨⟨by decide, .string host⟩, ⟨by decide, .integer exact⟩, List.forall_mem_nil _⟩
  have listed : [("unix", unixRecord.variant), ("tcp", tcpRecord.variant)].lookup "tcp" =
      some tcpRecord.variant := rfl
  have reads := variant_reads listed members (tcpRecord_ofMembers host port)
  simp only [Json.membersChars, Json.Value.chars, Json.Value.integer, Json.Number.chars] at reads
  exact reads

/-- Every endpoint is read from its printed form. -/
theorem decoder_reads (endpoint : Endpoint) :
    decoder.Reads (depth + 1) endpoint.chars endpoint := by
  cases endpoint with
  | unix path => exact unix_reads path
  | tcp host port => exact tcp_reads host port

end Endpoint

/-- Every log format is read from its printed form. -/
theorem Log.Format.decoder_reads (format : Log.Format) :
    Log.Format.decoder.Reads depth format.chars format := by
  cases format <;> exact Decoder.choice_reads rfl

/-! ### All types -/

theorem ok_of_toOption {ε α : Type} {result : Except ε α} {value : α}
    (found : result.toOption = some value) : result = .ok value := by
  cases result with
  | error fault => cases found
  | ok other => exact congrArg Except.ok (Option.some.inj found)

/-- Reading and then writing reaches a normal form.  Whatever text was read as a request, an
identifier, an error, a violation, an endpoint or a format of the log, what is written for the
result is read as the same result, so that writing it once more gives the same text.  Only params
and data with floats are left aside.  Requests and errors are read up to the depth, the identifiers
and the codes that texts keep, and every violation, endpoint and format is. -/
theorem read_texts_settle :
    Rpc.Message.decoder.Settles Rpc.Message.chars (fun message => FloatFree message.params)
        (Rpc.Message.Kept 126) ∧
      Rpc.Id.decoder.Settles (fun id => id.toValue.chars) (fun _ => True) Rpc.Id.Fits ∧
      Rpc.ErrorPayload.record.decoder.Settles Rpc.ErrorPayload.chars
        (fun payload => ∀ data ∈ payload.data, FloatFree data) (Rpc.ErrorPayload.Kept 126) ∧
      Rpc.Violation.record.decoder.Settles Rpc.Violation.chars (fun _ => True) (fun _ => True) ∧
      Endpoint.decoder.Settles Endpoint.chars (fun _ => True) (fun _ => True) ∧
      Log.Format.decoder.Settles Log.Format.chars (fun _ => True) (fun _ => True) := by
  have identified : Rpc.Id.decoder.Yields Json.maxDepth fun id => True → id.Fits :=
    Rpc.Id.decoder_yields.mono fun _ fits _ => fits
  exact ⟨Rpc.Message.decoder_yields.settles fun _ => Rpc.Message.decoder_reads,
    identified.settles fun _ => Rpc.Id.decoder_reads,
    Rpc.ErrorPayload.decoder_yields.settles fun _ => Rpc.ErrorPayload.decoder_reads,
    Decoder.settles_of_reads Rpc.Violation.decoder_reads,
    Decoder.settles_of_reads Endpoint.decoder_reads,
    Decoder.settles_of_reads Log.Format.decoder_reads⟩

/-- A request with its members out of order, a null identifier and a float in a member that requests
do not have; an endpoint in the form of an array; a format whose name is in an object. -/
theorem read_texts_settle_forms :
    Rpc.Message.decoder.ofBytes (Text.Utf8.encode
        (String.ofList (Rpc.Message.chars ⟨"2.0", "m", .null, .absent⟩))) =
      .ok ⟨"2.0", "m", .null, .absent⟩ ∧
    Endpoint.decoder.ofBytes (Text.Utf8.encode
        (String.ofList (Endpoint.chars (.tcp "h" 1)))) = .ok (.tcp "h" 1) ∧
    Log.Format.decoder.ofBytes (Text.Utf8.encode
        (String.ofList (Log.Format.chars .json))) = .ok .json := by
  obtain ⟨message, -, -, -, endpoint, format⟩ := read_texts_settle
  have shuffled : (Rpc.Message.decoder.ofBytes (Text.Utf8.encode
      "\x7b\"x\":[1.5],\"method\":\"m\",\"id\":null,\"jsonrpc\":\"2.0\"\x7d")).toOption.map
        (fun message => (message.jsonrpc, message.method, message.params.isNull, message.id)) =
      some ("2.0", "m", true, .absent) := by decide +kernel
  have arrayed : (Endpoint.decoder.ofBytes (Text.Utf8.encode "[\"tcp\", \"h\", 1]")).toOption =
      some (.tcp "h" 1) := by decide +kernel
  have named : (Log.Format.decoder.ofBytes
      (Text.Utf8.encode "\x7b\"json\": null\x7d")).toOption = some .json := by decide +kernel
  obtain ⟨⟨jsonrpc, method, params, id⟩, found, fields⟩ := Option.map_eq_some_iff.mp shuffled
  simp only [Prod.mk.injEq] at fields
  obtain ⟨rfl, rfl, null, rfl⟩ := fields
  cases params <;> cases null
  exact ⟨message.again _ _ (ok_of_toOption found) .null,
    endpoint.again _ _ (ok_of_toOption arrayed) trivial,
    format.again _ _ (ok_of_toOption named) trivial⟩

end RpcDispatch
