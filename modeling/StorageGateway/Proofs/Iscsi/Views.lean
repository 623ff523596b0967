import StorageGateway.Iscsi.Adapters
import StorageGateway.Proofs.Adapter.Views
import StorageGateway.Proofs.Json.Relations

/-!
# iSCSI with ports of 16 bits
-/

namespace StorageGateway.Iscsi

open Json

/-! ## Ports in responses -/

/-- The port that a portal is listed with. -/
def listedPort (portal : Json) : Int := ((portal.member? "target_port").bind int?).getD 0

/-- A list of portals whose ports have 16 bits, or else the first port that has more. -/
def narrowPorts (response : Json) : Except Fault Json :=
  match ((orNull (response.member? "target_portals")).items.map listedPort).find? (65535 < ·) with
  | some port => .error (.unrepresentable "target_port" (toString port ++ " is out of range"))
  | none => .ok response

/-- The methods of `v1alpha1` and `v1alpha2`. -/
def views : List View := [
  { method := "AddTargetPortal" }, { method := "DiscoverTargetPortal" },
  { method := "ListTargetPortals", response := narrowPorts }, { method := "RemoveTargetPortal" },
  { method := "ConnectTarget" }, { method := "DisconnectTarget" }, { method := "GetTargetDisks" },
  { method := "SetMutualChapSecret" }]

/-! ## Wider ports in requests -/

/-- The same portal with a wider port. -/
def Portal.widen (portal : Portal UInt16) : Portal UInt32 := ⟨portal.address, portal.port.toUInt32⟩

/-- The same target with a wider port. -/
def Target.widen (target : Target UInt16) : Target UInt32 := ⟨target.portal.widen, target.iqn⟩

/-- The same request with a wider port. -/
def Login.widen (login : Login UInt16) : Login UInt32 :=
  { login with portal := login.portal.widen }

theorem leads_portal : Reader.Leads (fun portal wide => wide = portal.widen)
    (Portal.schema .u16).read (Portal.schema .u32).read := by
  refine Reader.leads_record _ _ ?_
  refine .seq (.map (Fields.leads_required _ (.refl _)) ?_)
    (Fields.leads_required _ Reader.u16_leads_u32)
  rintro address _ rfl port _ rfl
  rfl

theorem leads_portalRequest (name : String) :
    Reader.Leads (fun portal wide => wide = Portal.widen portal)
      (portalRequest .u16 name).read (portalRequest .u32 name).read :=
  Reader.leads_record _ _ (Fields.leads_required _ leads_portal)

theorem leads_targetRequest (name : String) :
    Reader.Leads (fun target wide => wide = Target.widen target)
      (targetRequest .u16 name).read (targetRequest .u32 name).read := by
  refine Reader.leads_record _ _ ?_
  refine .seq (.map (Fields.leads_required _ leads_portal) ?_) (Fields.leads_required _ (.refl _))
  rintro portal _ rfl iqn _ rfl
  rfl

theorem leads_login : Reader.Leads (fun login wide => wide = Login.widen login)
    (Login.schema .u16).read (Login.schema .u32).read := by
  refine Reader.leads_record _ _ ?_
  refine .seq (.seq (.seq (.seq (.seq (.map (Fields.leads_required _ leads_portal) ?_)
    (Fields.leads_required _ (.refl _))) (Fields.leads_defaulted _ (.refl _) rfl))
    (Fields.leads_defaulted _ (.refl _) rfl)) (Fields.leads_defaulted _ (.refl _) rfl))
    (Fields.leads_defaulted _ (.refl _) rfl)
  rintro portal _ rfl iqn _ rfl isMultipath _ rfl authentication _ rfl username _ rfl secret _ rfl
  rfl

/-! ## Requests that are written and read again -/

theorem readsBack_portal : (Portal.schema .u32).ReadsBack := by
  intro portal
  refine (Reader.record_of_members ?_ ?_).trans ?_
  · simp [Schema.u32]
  · simp
  · simp [Schema.u32, List.lookup_cons]

theorem readsBack_target (name : String) : (targetRequest .u32 name).ReadsBack := by
  intro target
  have hportal := readsBack_portal.toDocument target.portal
  refine (Reader.record_of_members ?_ ?_).trans ?_
  · simp [hportal]
  · simp
  · simp [hportal, List.lookup_cons]

theorem readsBack_authentication : Authentication.schema.ReadsBack := by
  intro authentication
  cases authentication <;> rfl

theorem readsBack_login : (Login.schema .u32).ReadsBack := by
  intro login
  have hauthentication := readsBack_authentication.toDocument login.authentication
  have hportal := readsBack_portal.toDocument login.portal
  refine (Reader.record_of_members ?_ ?_).trans ?_
  · simp [hauthentication, hportal]
  · simp
  · simp [hauthentication, hportal, List.lookup_cons]

theorem write_widen (portal : Portal UInt16) :
    (Portal.schema .u16).write portal = (Portal.schema .u32).write portal.widen := by
  simp [Portal.schema, Portal.widen, Schema.u16, Schema.u32]

theorem structural_portal (name : String) (portal : Portal UInt16) :
    Wire.alpha.portal name portal = .ok portal.widen :=
  Conversion.structural_eq_ok (readsBack_portal.single _ _)
    (congrArg (fun written => object [("target_portal", written)]) (write_widen portal))

theorem structural_target (name : String) (target : Target UInt16) :
    Wire.alpha.target name target = .ok target.widen :=
  Conversion.structural_eq_ok (readsBack_target name)
    (congrArg (fun written => object [("iqn", .string target.iqn), ("target_portal", written)])
      (write_widen target.portal))

theorem structural_login (login : Login UInt16) : Wire.alpha.login login = .ok login.widen := by
  refine Conversion.structural_eq_ok readsBack_login ?_
  simp only [Login.schema, Login.widen, write_widen]

/-! ## The methods -/

theorem shows_portal {method record : String} {Response : Type} {response : Schema Response}
    (plan : Portal UInt32 → Host.Plan Response) :
    View.Shows { method } (portalRoute .alpha method record response plan)
      (portalRoute .stable method record response plan) := by
  refine .of_route rfl rfl rfl (fun params wire given hread hdecoded => ?_) fun answer => ?_
  · obtain ⟨stableWire, hstable, rfl⟩ := leads_portalRequest record _ _ wire hread
    obtain rfl : wire.widen = given :=
      Except.ok.inj ((structural_portal record wire).symm.trans hdecoded)
    exact ⟨_, hstable, rfl⟩
  · rfl

theorem shows_target {method record : String} {Response : Type} {response : Schema Response}
    (plan : Target UInt32 → Host.Plan Response) :
    View.Shows { method } (targetRoute .alpha method record response plan)
      (targetRoute .stable method record response plan) := by
  refine .of_route rfl rfl rfl (fun params wire given hread hdecoded => ?_) fun answer => ?_
  · obtain ⟨stableWire, hstable, rfl⟩ := leads_targetRequest record _ _ wire hread
    obtain rfl : wire.widen = given :=
      Except.ok.inj ((structural_target record wire).symm.trans hdecoded)
    exact ⟨_, hstable, rfl⟩
  · rfl

theorem shows_connect :
    View.Shows { method := "ConnectTarget" } (connectRoute .alpha) (connectRoute .stable) := by
  refine .of_route rfl rfl rfl (fun params wire given hread hdecoded => ?_) fun answer => ?_
  · obtain ⟨stableWire, hstable, rfl⟩ := leads_login _ _ wire hread
    obtain rfl : wire.widen = given :=
      Except.ok.inj ((structural_login wire).symm.trans hdecoded)
    exact ⟨_, hstable, rfl⟩
  · rfl

/-! ## Listing portals -/

/-- A port has more than 16 bits. -/
def IsWide (portal : Portal UInt32) : Bool := 65535 < (portal.port.toNat : Int)

/-- The same portal with as much of its port as fits. -/
def Portal.narrow (portal : Portal UInt32) : Portal UInt16 :=
  ⟨portal.address, portal.port.toUInt16⟩

theorem mapPort_of_wide {portal : Portal UInt32} (h : IsWide portal = true) :
    portal.mapPort (Conversion.narrowU16 "target_port") =
      .error ⟨"target_port", toString (portal.port.toNat : Int) ++ " is out of range"⟩ := by
  have hwide : 65535 < (portal.port.toNat : Int) := of_decide_eq_true h
  have hholds : ¬ (Text.Width.unsigned 16).holds portal.port.toNat = true := by
    rw [Reader.holds_u16_iff]
    omega
  unfold Portal.mapPort Conversion.narrowU16 Conversion.narrow
  rw [if_neg hholds]
  rfl

theorem mapPort_of_narrow {portal : Portal UInt32} (h : ¬ IsWide portal = true) :
    portal.mapPort (Conversion.narrowU16 "target_port") = .ok portal.narrow := by
  have hnarrow : ¬ 65535 < (portal.port.toNat : Int) := fun hwide => h (decide_eq_true hwide)
  have hholds : (Text.Width.unsigned 16).holds portal.port.toNat = true := by
    rw [Reader.holds_u16_iff]
    omega
  unfold Portal.mapPort Conversion.narrowU16 Conversion.narrow
  rw [if_pos hholds]
  rfl

/-- The first port that has more than 16 bits is the one that is told. -/
theorem encodePortals_eq (portals : List (Portal UInt32)) :
    encodePortals portals =
      match portals.find? IsWide with
      | some portal =>
        .error ⟨"target_port", toString (portal.port.toNat : Int) ++ " is out of range"⟩
      | none => .ok (portals.map Portal.narrow) := by
  induction portals with
  | nil => rfl
  | cons portal portals ih =>
    unfold encodePortals at ih ⊢
    rw [List.mapM_cons]
    by_cases hwide : IsWide portal = true
    · rw [mapPort_of_wide hwide, List.find?_cons_of_pos hwide]
      rfl
    · rw [mapPort_of_narrow hwide, ih, List.find?_cons_of_neg hwide]
      cases portals.find? IsWide <;> rfl

theorem write_narrow {portal : Portal UInt32} (h : ¬ IsWide portal = true) :
    (Portal.schema .u16).write portal.narrow = (Portal.schema .u32).write portal := by
  have hnarrow : ¬ 65535 < (portal.port.toNat : Int) := fun hwide => h (decide_eq_true hwide)
  have hport : portal.port.toUInt16.toNat = portal.port.toNat := by
    rw [UInt32.toNat_toUInt16]
    omega
  simp [Portal.schema, Portal.narrow, Schema.u16, Schema.u32, hport]

theorem map_listedPort (portals : List (Portal UInt32)) :
    (portals.map (Portal.schema .u32).write).map listedPort =
      portals.map fun portal => (portal.port.toNat : Int) := by
  simp [listedPort, Portal.schema, Schema.u32, member?, List.lookup_cons, int?, nat, int]

theorem narrowPorts_write (portals : List (Portal UInt32)) :
    narrowPorts ((portalsSchema .u32).write portals) =
      match portals.find? IsWide with
      | some portal => .error (.unrepresentable "target_port"
          (toString (portal.port.toNat : Int) ++ " is out of range"))
      | none => .ok ((portalsSchema .u32).write portals) := by
  have hports : (orNull (((portalsSchema .u32).write portals).member? "target_portals")).items.map
      listedPort = portals.map fun portal => (portal.port.toNat : Int) := map_listedPort portals
  unfold narrowPorts
  rw [hports, List.find?_map]
  show _ = match portals.find? ((65535 < ·) ∘ fun portal => (portal.port.toNat : Int)) with
    | some portal => _
    | none => _
  cases portals.find? ((65535 < ·) ∘ fun portal => (portal.port.toNat : Int)) <;> rfl

theorem exists_of_narrowPorts {response : Json} {fault : Fault}
    (h : narrowPorts response = .error fault) :
    ∃ port : Int, 65535 < port ∧
      fault = .unrepresentable "target_port" (toString port ++ " is out of range") := by
  unfold narrowPorts at h
  split at h
  · rename_i port hfind
    cases h
    have hwide := List.find?_some hfind
    exact ⟨port, of_decide_eq_true hwide, rfl⟩
  · cases h

theorem deliver_listPortals (portals : List (Portal UInt32)) :
    (listPortalsRoute .alpha).deliver portals =
      match portals.find? IsWide with
      | some portal => .error (.unrepresentable "target_port"
          (toString (portal.port.toNat : Int) ++ " is out of range"))
      | none => .ok ((portalsSchema .u32).write portals) := by
  show ((Operation.mk "ListTargetPortals" none .same encodePortals).deliver portals).map _ = _
  simp only [Operation.deliver, encodePortals_eq]
  cases hwide : portals.find? IsWide with
  | some portal => rfl
  | none =>
    have hwrite : (portals.map Portal.narrow).map (Portal.schema .u16).write =
        portals.map (Portal.schema .u32).write := by
      rw [List.map_map]
      refine List.map_congr_left fun portal hportal => write_narrow ?_
      simpa using List.find?_eq_none.mp hwide portal hportal
    exact congrArg (fun written => Except.ok (object [("target_portals", .array written)])) hwrite

theorem shows_listPortals : View.Shows
    { method := "ListTargetPortals", response := narrowPorts }
    (listPortalsRoute .alpha) (listPortalsRoute .stable) := by
  refine .of_route rfl rfl rfl (fun params wire given hread hdecoded => ?_) fun portals => ?_
  · exact ⟨wire, hread, hdecoded⟩
  · exact (deliver_listPortals portals).trans (narrowPorts_write portals).symm

theorem aligned (number : UInt64) :
    Aligned views (alphaAdapter number).routes stableAdapter.routes := by
  refine .cons (shows_portal addPortal) <| .cons (shows_portal discover) <|
    .cons shows_listPortals <| .cons (shows_portal removePortal) <| .cons shows_connect <|
    .cons (shows_target disconnect) <| .cons (shows_target disks) <| .cons ?_ .nil
  refine .of_route rfl rfl rfl (fun params wire given hread hdecoded => ?_) fun _ => rfl
  exact ⟨wire, hread, hdecoded⟩

end StorageGateway.Iscsi
