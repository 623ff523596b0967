import StorageGateway.Catalog
import StorageGateway.Proofs.Adapter.Calls
import StorageGateway.Proofs.Json.RoundTrip

/-!
# What responses look like

Whatever a method of one of the APIs answers is an object that texts hold as it is: a few levels of
objects and arrays with texts, truth values and integers of 64 bits in them, and the members of
objects in the order of their names.
-/

namespace StorageGateway

open Host (Machine)
open Json (Readable)

/-! ## What schemas write -/

/-- Whatever is to be written has a JSON, which is an object, held by texts with room for so many
levels. -/
def Json.Writer.WritesObject {α : Type} (room : Nat) (writer : Json.Writer α) : Prop :=
  ∀ a, ∃ members, writer a = .ok (.object members) ∧ Readable room (.object members)

namespace Schema

variable {α : Type} {room : Nat}

/-- Whatever the schema writes is held by texts with room for so many levels. -/
def Writes (room : Nat) (schema : Schema α) : Prop := ∀ a, Readable room (schema.write a)

/-- Besides, it is an object. -/
def WritesObject (room : Nat) (schema : Schema α) : Prop := schema.writer.WritesObject room

theorem WritesObject.writes {schema : Schema α} (h : schema.WritesObject room) :
    schema.Writes room := by
  intro a
  obtain ⟨members, hwrite, hreadable⟩ := h a
  rw [Except.ok.inj hwrite]
  exact hreadable

theorem writes_string : string.Writes room := fun s => .string room s

theorem writes_bool : bool.Writes room := fun b => .bool room b

theorem readable_nat {n : Nat} (h : n < 2 ^ 64) : Readable room (.nat n) :=
  .number room (Json.Token.numberReadsBack_int (by omega) (by omega))

theorem writes_u16 : u16.Writes room := fun n => readable_nat (by have := n.toNat_lt; omega)

theorem writes_u32 : u32.Writes room := fun n => readable_nat (by have := n.toNat_lt; omega)

theorem readable_i64 (n : Int64) : Readable room (.int n.toInt) := by
  have hleast := n.le_toInt
  have hgreatest := n.toInt_lt
  exact .number room (Json.Token.numberReadsBack_int hleast (by omega))

theorem writes_i64 : i64.Writes room := fun n => readable_i64 n

theorem writes_list {item : Schema α} (h : item.Writes room) : (list item).Writes (room + 1) := by
  intro items
  refine .array fun value hvalue => ?_
  obtain ⟨a, -, rfl⟩ := List.mem_map.mp hvalue
  exact h a

/-- Whether members are sorted is told by their names. -/
theorem readable_object {members : List (String × Json)}
    (hnames : (members.map Prod.fst).Pairwise (· < ·)) (h : ∀ m ∈ members, Readable room m.2) :
    Readable (room + 1) (.object members) :=
  .object (List.pairwise_map.mp hnames) h

theorem readable_ofEntries {members : List (String × Json)}
    (h : ∀ m ∈ members, Readable room m.2) :
    Readable (room + 1) (.object (Table.ofEntries members)) :=
  .object (Table.sorted_ofEntries members) fun m hm => h m (Table.mem_of_mem_ofEntries hm)

theorem writesObject_table {κ : Type} [LT κ] [DecidableLT κ] [DecidableEq κ]
    {readName : String → Except Json.Refusal κ} {writeName : κ → String} {value : Schema α}
    (h : value.Writes room) : (table readName writeName value).WritesObject (room + 1) := by
  intro entries
  refine ⟨_, rfl, readable_ofEntries fun m hm => ?_⟩
  obtain ⟨entry, -, rfl⟩ := List.mem_map.mp hm
  exact h entry.2

theorem writesObject_single {record field : String} {value : Schema α} (h : value.Writes room) :
    (single record field value).WritesObject (room + 1) := by
  intro a
  refine ⟨_, rfl, readable_object (List.pairwise_singleton _ _) ?_⟩
  simp only [List.forall_mem_cons]
  exact ⟨h a, List.forall_mem_nil _⟩

theorem writesObject_empty (name : String) : (empty name).WritesObject (room + 1) :=
  fun _ => ⟨_, rfl, readable_object List.Pairwise.nil (List.forall_mem_nil _)⟩

end Schema

/-! ## The APIs -/

/-- Whatever the route answers can be written, as an object that texts with room for three levels
hold. -/
def Route.Tells {σ : Type} (route : Route σ) : Prop := route.writeResponse.WritesObject 3

theorem Adapter.tells_of_call {σ : Type} {adapter : Adapter σ}
    (h : ∀ route ∈ adapter.routes, route.Tells) {method : String} {params value : Json}
    {world after : σ} (hcall : (adapter.call method params).perform world = (.ok value, after)) :
    Readable 3 value ∧ value ≠ .null := by
  unfold Adapter.call at hcall
  cases hroute : adapter.route? method with
  | none =>
    rw [hroute] at hcall
    cases hcall
  | some route =>
    rw [hroute] at hcall
    dsimp only at hcall
    rw [Route.perform_call] at hcall
    cases haccept : route.accept adapter.version params with
    | error fault =>
      rw [haccept] at hcall
      cases hcall
    | ok request =>
      rw [haccept] at hcall
      obtain ⟨houtcome, -⟩ := Prod.mk.inj hcall
      have hgives := route.gives_bind_deliver
        ((route.invoke request adapter.version).perform world).1
      rw [houtcome] at hgives
      generalize ((route.invoke request adapter.version).perform world).1 = answer at hgives
      cases hgives with
      | @written response wire json hencode hwrite =>
        obtain ⟨members, hobject, hreadable⟩ := h route (List.mem_of_find?_eq_some hroute) wire
        obtain rfl := Except.ok.inj (hwrite.symm.trans hobject)
        exact ⟨hreadable, Json.noConfusion⟩

open Schema

namespace Disk

variable {room : Nat}

theorem Location.writesObject_schema : Location.schema.WritesObject (room + 1) := by
  intro location
  refine ⟨_, rfl, readable_object ?_ ?_⟩
  · show ["adapter", "bus", "lun_id", "target"].Pairwise (· < ·)
    decide
  · simp only [List.forall_mem_cons]
    exact ⟨.string room _, .string room _, .string room _, .string room _, List.forall_mem_nil _⟩

theorem Identity.writesObject_schema : Identity.schema.WritesObject (room + 1) := by
  intro identity
  refine ⟨_, rfl, readable_object ?_ ?_⟩
  · show ["page83", "serial_number"].Pairwise (· < ·)
    decide
  · simp only [List.forall_mem_cons]
    exact ⟨.string room _, .string room _, List.forall_mem_nil _⟩

theorem tells {adapter : Adapter Machine} (hadapter : adapter ∈ adapters) :
    ∀ route ∈ adapter.routes, route.Tells := by
  have hcases : adapter = betaAdapter ∨ adapter = stableAdapter := by
    simpa [adapters] using hadapter
  rcases hcases with rfl | rfl
  all_goals
    simp only [betaAdapter, stableAdapter, List.forall_mem_cons]
    exact ⟨writesObject_single (writesObject_table Location.writesObject_schema.writes).writes,
      writesObject_empty _, writesObject_empty _,
      writesObject_single (writesObject_table Identity.writesObject_schema.writes).writes,
      writesObject_single writes_i64, writesObject_empty _, writesObject_single writes_bool,
      List.forall_mem_nil _⟩

end Disk

namespace Volume

theorem Usage.writesObject_schemaWith (total used : String) :
    (Usage.schemaWith total used).WritesObject 3 := by
  intro usage
  refine ⟨_, rfl, readable_ofEntries ?_⟩
  simp only [List.forall_mem_cons]
  exact ⟨readable_i64 _, readable_i64 _, List.forall_mem_nil _⟩

theorem tells {adapter : Adapter Machine} (hadapter : adapter ∈ adapters) :
    ∀ route ∈ adapter.routes, route.Tells := by
  have hcases : adapter = betaAdapter ∨ adapter = stableAdapter := by
    simpa [adapters] using hadapter
  have hlist : volumesSchema.WritesObject 3 := writesObject_single (writes_list writes_string)
  rcases hcases with rfl | rfl
  · simp only [betaAdapter, List.forall_mem_cons]
    exact ⟨hlist, writesObject_empty _, writesObject_empty _, writesObject_single writes_bool,
      writesObject_empty _, writesObject_empty _, Usage.writesObject_schemaWith _ _,
      writesObject_single writes_i64, List.forall_mem_nil _⟩
  · simp only [stableAdapter, List.forall_mem_cons]
    exact ⟨hlist, writesObject_empty _, writesObject_empty _, writesObject_single writes_bool,
      writesObject_empty _, writesObject_empty _, Usage.writesObject_schemaWith _ _,
      writesObject_single writes_u32, List.forall_mem_nil _⟩

end Volume

namespace Smb

theorem tells {adapter : Adapter Machine} (hadapter : adapter ∈ adapters) :
    ∀ route ∈ adapter.routes, route.Tells := by
  have hcases : adapter = betaAdapter ∨ adapter = stableAdapter := by
    simpa [adapters] using hadapter
  rcases hcases with rfl | rfl
  all_goals
    simp only [betaAdapter, stableAdapter, List.forall_mem_cons]
    exact ⟨writesObject_empty _, writesObject_empty _, List.forall_mem_nil _⟩

end Smb

namespace Iscsi

theorem Portal.writesObject_schema {Port : Type} {port : Schema Port} {room : Nat}
    (h : port.Writes room) : (Portal.schema port).WritesObject (room + 1) := by
  intro portal
  refine ⟨_, rfl, readable_object ?_ ?_⟩
  · show ["target_address", "target_port"].Pairwise (· < ·)
    decide
  · simp only [List.forall_mem_cons]
    exact ⟨.string room _, h portal.port, List.forall_mem_nil _⟩

theorem tells_of_port {Port : Type} {wire : Wire Port} (hport : wire.port.Writes 0)
    (secretSince : Option Version) : ∀ route ∈ routes wire secretSince, route.Tells := by
  have hportals : (portalsSchema wire.port).WritesObject 3 :=
    writesObject_single (writes_list (Portal.writesObject_schema hport).writes)
  have htexts {record field : String} :
      (Schema.single record field (.list .string)).WritesObject 3 :=
    writesObject_single (writes_list writes_string)
  simp only [routes, List.forall_mem_cons]
  exact ⟨writesObject_empty _, htexts, hportals, writesObject_empty _, writesObject_empty _,
    writesObject_empty _, htexts, writesObject_empty _, List.forall_mem_nil _⟩

theorem tells {adapter : Adapter Machine} (hadapter : adapter ∈ adapters) :
    ∀ route ∈ adapter.routes, route.Tells := by
  have hcases : adapter = alphaAdapter 1 ∨ adapter = alphaAdapter 2 ∨ adapter = stableAdapter := by
    simpa [adapters] using hadapter
  rcases hcases with rfl | rfl | rfl
  · exact tells_of_port writes_u16 _
  · exact tells_of_port writes_u16 _
  · exact tells_of_port writes_u32 _

end Iscsi

namespace Services

theorem Service.writesObject_schema : Service.schema.WritesObject 3 := by
  intro service
  refine ⟨_, rfl, readable_object ?_ ?_⟩
  · show ["display_name", "start_type", "status"].Pairwise (· < ·)
    decide
  · simp only [List.forall_mem_cons]
    exact ⟨.string 2 _, .string 2 _, .string 2 _, List.forall_mem_nil _⟩

theorem tells {adapter : Adapter Machine} (hadapter : adapter ∈ adapters) :
    ∀ route ∈ adapter.routes, route.Tells := by
  obtain rfl : adapter = alphaAdapter := by simpa [adapters] using hadapter
  simp only [alphaAdapter, List.forall_mem_cons]
  exact ⟨writesObject_single writes_string, Service.writesObject_schema, writesObject_empty _,
    writesObject_empty _, List.forall_mem_nil _⟩

end Services

namespace Files

theorem tells {roots : Roots} {adapter : Adapter Machine} (hadapter : adapter ∈ adapters roots) :
    ∀ route ∈ adapter.routes, route.Tells := by
  have hcases : adapter = betaAdapter roots ∨ adapter = stableAdapter roots := by
    simpa [adapters] using hadapter
  rcases hcases with rfl | rfl
  all_goals
    simp only [betaAdapter, stableAdapter, List.forall_mem_cons]
    exact ⟨writesObject_single writes_bool, writesObject_empty _, writesObject_empty _,
      writesObject_empty _, writesObject_single writes_bool, List.forall_mem_nil _⟩

end Files

/-- Whatever a method of an API answers is an object, held by texts with room for three levels. -/
theorem tells_of_mem_allAdapters {roots : Roots} {adapter : Adapter Machine}
    (hadapter : adapter ∈ allAdapters roots) {route : Route Machine}
    (hroute : route ∈ adapter.routes) : route.Tells := by
  obtain ⟨group, -, hgroup⟩ := List.mem_flatMap.mp hadapter
  cases group with
  | filesystem => exact Files.tells hgroup route hroute
  | disk => exact Disk.tells hgroup route hroute
  | volume => exact Volume.tells hgroup route hroute
  | smb => exact Smb.tells hgroup route hroute
  | iscsi => exact Iscsi.tells hgroup route hroute
  | system => exact Services.tells hgroup route hroute

/-- It does so whatever is behind the API. -/
theorem tells_of_servedBy {τ : Type} {roots : Roots} {adapter : Adapter Machine}
    (hadapter : adapter ∈ allAdapters roots) (implementation : Implementation Machine τ) :
    ∀ route ∈ (adapter.servedBy implementation).routes, route.Tells := by
  intro route hroute
  obtain ⟨original, horiginal, rfl⟩ := List.mem_map.mp hroute
  exact tells_of_mem_allAdapters hadapter horiginal

end StorageGateway
