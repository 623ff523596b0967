import StorageGateway.Proofs.Rpc.Messages
import StorageGateway.Proofs.Text.Split

/-!
# Faults over the wire

Whoever is told of a fault gets its code, its message and its fields. A fault that has fields is
rebuilt from them; where they are missing, one that is made of a single text is rebuilt from its
message. Of any other fault the code and the whole message arrive.
-/

namespace StorageGateway.Fault

/-- The faults that are made of a single text. -/
inductive HoldsText : Fault → Prop where
  | invalidArgument (message : String) : HoldsText (.invalidArgument message)
  | methodNotFound (method : String) : HoldsText (.methodNotFound method)
  | notFound (what : String) : HoldsText (.notFound what)

/-- The faults that callers are told with their fields. -/
inductive HasFields : Fault → Prop where
  | ofText {fault : Fault} (h : fault.HoldsText) : HasFields fault
  | unsupportedVersion (operation version minimum : String) :
    HasFields (.unsupportedVersion operation version minimum)
  | unrepresentable (field message : String) : HasFields (.unrepresentable field message)

/-- The text that a caller finds in a fault that was rebuilt without fields. -/
def text? : Fault → Option String
  | .invalidArgument text | .methodNotFound text | .notFound text | .remote _ text => some text
  | _ => none

theorem code_ofWire (code : Int32) (message : String) (data : Option Json) :
    (ofWire code message data).code = code := by
  unfold ofWire
  dsimp only
  split
  · rename_i h
    exact h.symm
  split
  · rename_i h
    exact h.symm
  split
  · rename_i h
    exact h.symm
  split
  · rename_i h
    split
    · exact h.symm
    · rfl
  split
  · rename_i h
    split
    · exact h.symm
    · rfl
  rfl

theorem HasFields.told_eq {fault : Fault} (h : fault.HasFields) : fault.told = fault := by
  cases h with
  | ofText h => cases h <;> rfl
  | unsupportedVersion operation version minimum => rfl
  | unrepresentable field message => rfl

theorem HoldsText.ofWire_eq {fault : Fault} (h : fault.HoldsText) :
    ofWire fault.code fault.message none = fault := by
  cases h with
  | invalidArgument message =>
    exact congrArg Fault.invalidArgument (Text.withoutPrefix_append _ message)
  | methodNotFound method =>
    exact congrArg Fault.methodNotFound (Text.withoutPrefix_append _ method)
  | notFound what => exact congrArg Fault.notFound (Text.withoutPrefix_append _ what)

/-- The words that some messages are freed from. -/
def beginnings : List String := ["Method not found: ", "Invalid argument: ", "Not found: "]

/-- Without fields, a message that begins in no such way is kept as it is. -/
theorem text?_ofWire {message : String}
    (h : ∀ beginning ∈ beginnings, Text.withoutPrefix beginning message = message) (code : Int32) :
    (ofWire code message none).text? = some message := by
  simp only [beginnings, List.forall_mem_cons] at h
  obtain ⟨hmethod, hargument, hwhat, -⟩ := h
  unfold ofWire
  dsimp only [Option.bind_none, Option.getD_none]
  rw [hmethod, hargument, hwhat]
  split
  · rfl
  split
  · rfl
  split
  · rfl
  split
  · rfl
  split
  · rfl
  rfl

/-- Of a fault that is told without fields the whole message is kept. -/
theorem text?_told {fault : Fault} (h : ¬ fault.HasFields) :
    fault.told.text? = some fault.message := by
  cases fault
  case invalidArgument message => exact absurd (.ofText (.invalidArgument message)) h
  case methodNotFound method => exact absurd (.ofText (.methodNotFound method)) h
  case notFound what => exact absurd (.ofText (.notFound what)) h
  case unsupportedVersion operation version minimum =>
    exact absurd (.unsupportedVersion operation version minimum) h
  case unrepresentable field message => exact absurd (.unrepresentable field message) h
  case misreadVersion input cause =>
    have hmessage : (misreadVersion input cause).message =
        "Invalid version string " ++ Text.quoted input ++ ": " ++ cause := rfl
    have htold : (misreadVersion input cause).told =
        ofWire invalidParamsCode (misreadVersion input cause).message none := rfl
    rw [htold, hmessage]
    refine text?_ofWire (fun beginning hin => Text.withoutPrefix_of_ne fun rest hsame => ?_) _
    simp only [beginnings, List.mem_cons, List.not_mem_nil, or_false] at hin
    rcases hin with rfl | rfl | rfl <;> simp at hsame
  case remote code cause =>
    have hmessage : (remote code cause).message =
        "Remote error " ++ toString code.toInt ++ ": " ++ cause := rfl
    have htold : (remote code cause).told = ofWire code (remote code cause).message none := rfl
    rw [htold, hmessage]
    refine text?_ofWire (fun beginning hin => Text.withoutPrefix_of_ne fun rest hsame => ?_) _
    simp only [beginnings, List.mem_cons, List.not_mem_nil, or_false] at hin
    rcases hin with rfl | rfl | rfl <;> simp at hsame
  -- The codes of the others stand for no kind of fault, so nothing is taken off their messages.
  all_goals rfl

/-- Whatever arrives by `ofWire` has the code that was told; a fault that has fields
(`Fault.HasFields`) arrives as it was, also without them when it is made of one text
(`Fault.HoldsText`); and any other one arrives as its code and its whole message. Callers find the
very same in the text of a `Rpc.Response`, by `Rpc.Client.outcome`. -/
theorem faults_survive_the_wire :
    (∀ code message data, (ofWire code message data).code = code) ∧
    ∀ fault : Fault,
      (fault.HasFields → fault.told = fault) ∧
      (fault.HoldsText → ofWire fault.code fault.message none = fault) ∧
      (¬ fault.HasFields → fault.told.code = fault.code ∧ fault.told.text? = some fault.message) ∧
      ∀ id : UInt64,
        Rpc.Client.outcome (Text.Utf8.encode
          (Rpc.Response.ofFault (some (.nat id.toNat)) fault).text) = .error fault.told ∧
        Rpc.Client.outcome (Text.Utf8.encode
          (Rpc.Response.failure (some (.nat id.toNat)) ⟨fault.code, fault.message, none⟩).text) =
            .error (ofWire fault.code fault.message none) := by
  refine ⟨code_ofWire, fun fault => ⟨HasFields.told_eq, HoldsText.ofWire_eq, fun h => ?_,
    fun id => ⟨?_, ?_⟩⟩⟩
  · exact ⟨code_ofWire _ _ _, text?_told h⟩
  · exact Rpc.outcome_ofFault fault id.toNat_lt
  · refine Rpc.outcome_failure (fun data hdata => ?_) id.toNat_lt
    cases hdata

end StorageGateway.Fault
