import StorageGateway.Proofs.Iscsi.Views
import StorageGateway.Proofs.Json.Narrowing

/-!
# Ports of 16 bits and of 32 bits

The alpha versions of the iSCSI API are told from the stable one by the width of ports alone. They
take what the stable version takes, as long as the port has 16 bits, and make the same request of
it; and they list what the stable version lists, as long as all ports do.
-/

namespace StorageGateway.Iscsi

open Host Json

/-! ## Requests -/

theorem portal_leadsWhen :
    Reader.LeadsWhen (fun wide => wide.port.toNat ≤ 65535)
      (fun wide portal => wide = Portal.widen portal)
      (Portal.schema .u32).read (Portal.schema .u16).read := by
  refine Reader.leadsWhen_record _ _ ?_ ?_
  · refine .seq (T := fun g g' => ∃ address, g = Portal.mk address ∧ g' = Portal.mk address)
      (.map ((Fields.leads_required _ (.refl _)).when fun _ => True) (fun _ _ => trivial) ?_)
      (Fields.leadsWhen_required _ Reader.u32_leads_u16) ?_ ?_
    · rintro address _ rfl
      exact ⟨address, rfl, rfl⟩
    · rintro _ _ port ⟨address, rfl, rfl⟩ hfit
      exact hfit
    · rintro _ _ _ port ⟨address, rfl, rfl⟩ rfl
      rfl
  · exact ((Fields.examines_single _ _ _ _).map _).seq (Fields.examines_single _ _ _ _)

theorem portalRequest_leadsWhen (name : String) :
    Reader.LeadsWhen (fun wide => wide.port.toNat ≤ 65535)
      (fun wide portal => wide = Portal.widen portal)
      (portalRequest .u32 name).read (portalRequest .u16 name).read :=
  Reader.leadsWhen_record _ _ (Fields.leadsWhen_required _ portal_leadsWhen)
    (Fields.examines_single _ _ _ _)

theorem targetRequest_leadsWhen (name : String) :
    Reader.LeadsWhen (fun wide => wide.portal.port.toNat ≤ 65535)
      (fun wide target => wide = Target.widen target)
      (targetRequest .u32 name).read (targetRequest .u16 name).read := by
  refine Reader.leadsWhen_record _ _ ?_ ?_
  · refine .seq_leads (.map (Fields.leadsWhen_required _ portal_leadsWhen) ?_ ?_)
      (Fields.leads_required _ (.refl _))
    · rintro portal ⟨iqn, hfit⟩
      exact hfit
    · rintro _ portal rfl iqn _ rfl
      rfl
  · exact ((Fields.examines_single _ _ _ _).map _).seq (Fields.examines_single _ _ _ _)

theorem login_leadsWhen :
    Reader.LeadsWhen (fun wide => wide.portal.port.toNat ≤ 65535)
      (fun wide login => wide = Login.widen login)
      (Login.schema .u32).read (Login.schema .u16).read := by
  refine Reader.leadsWhen_record _ _ ?_ ?_
  · refine .seq_leads (.seq_leads (.seq_leads (.seq_leads (.seq_leads
      (.map (Fields.leadsWhen_required _ portal_leadsWhen) ?_ ?_)
      (Fields.leads_required _ (.refl _))) (Fields.leads_defaulted _ (.refl _) rfl))
      (Fields.leads_defaulted _ (.refl _) rfl)) (Fields.leads_defaulted _ (.refl _) rfl))
      (Fields.leads_defaulted _ (.refl _) rfl)
    · rintro portal ⟨secret, username, authentication, isMultipath, iqn, hfit⟩
      exact hfit
    · rintro _ portal rfl iqn _ rfl isMultipath _ rfl authentication _ rfl username _ rfl secret _
        rfl
      rfl
  · exact ((((((Fields.examines_single _ _ _ _).map _).seq (Fields.examines_single _ _ _ _)).seq
      (Fields.examines_single _ _ _ _)).seq (Fields.examines_single _ _ _ _)).seq
      (Fields.examines_single _ _ _ _)).seq (Fields.examines_single _ _ _ _)

/-! ## Methods that take a port -/

/-- A method that two versions of an API carry out by the same plan, where the requests of the old
one have less room for a port. Both are routed to the plan; the old one makes a request by writing
its own under its schema and reading it under that of the stable one, which never fails; and it
accepts just what the stable one accepts with a port of 16 bits, as the same request. -/
inductive TakesPortOf16 (old stable : Adapter Machine) (method : String) {Wire Request : Type}
    (widen : Wire → Request) (port : Request → UInt32) : Prop where
  | intro {Response : Type} {wire : Schema Wire} {request : Schema Request}
      {response : Schema Response} {plan : Request → Plan Response}
      (routed : old.route? method =
        some (Plan.route ⟨method, none, .structural wire request, .same⟩ wire response plan))
      (stableRouted : stable.route? method =
        some (Plan.route ⟨method, none, .same, .same⟩ request response plan))
      (converts : ∀ given, Conversion.structural wire request given = .ok (widen given))
      (accepts : ∀ params request',
        (Plan.route ⟨method, none, .structural wire request, .same⟩ wire response plan).accept
            old.version params = .ok request' ↔
          (Plan.route ⟨method, none, .same, .same⟩ request response plan).accept
              stable.version params = .ok request' ∧
            (port request').toNat ≤ 65535) :
      TakesPortOf16 old stable method widen port

theorem distinct_alphaAdapter (number : UInt64) : (alphaAdapter number).Distinct := by
  show List.Nodup ["AddTargetPortal", "DiscoverTargetPortal", "ListTargetPortals",
    "RemoveTargetPortal", "ConnectTarget", "DisconnectTarget", "GetTargetDisks",
    "SetMutualChapSecret"]
  decide

theorem distinct_stableAdapter : stableAdapter.Distinct := by
  show List.Nodup ["AddTargetPortal", "DiscoverTargetPortal", "ListTargetPortals",
    "RemoveTargetPortal", "ConnectTarget", "DisconnectTarget", "GetTargetDisks",
    "SetMutualChapSecret"]
  decide

section
variable {method : String} {Wire Request Response : Type} {wire : Schema Wire}
  {request : Schema Request} {response : Schema Response} {plan : Request → Plan Response}
  {widen : Wire → Request} {port : Request → UInt32} {number : UInt64}

/-- What a route accepts whose operation is offered at all versions. -/
theorem accept_eq_ok_iff {operation : Operation Wire Request Response Response}
    (hsince : operation.since = none) {version : Version} {params : Json} {given : Request} :
    (Plan.route operation wire response plan).accept version params = .ok given ↔
      ∃ read, wire.read.ofJson params = .ok read ∧ operation.decode read = .ok given := by
  refine Route.accept_eq_ok_iff.trans ⟨?_, ?_⟩
  · rintro ⟨hread, hdecoded, -⟩
    exact ⟨_, hread, hdecoded⟩
  · rintro ⟨read, hread, hdecoded⟩
    exact ⟨hread, hdecoded, by simp [Plan.route, hsince]⟩

theorem takesPortOf16
    (hroute : Plan.route ⟨method, none, .structural wire request, .same⟩ wire response plan ∈
      (alphaAdapter number).routes)
    (hstable : Plan.route ⟨method, none, .same, .same⟩ request response plan ∈
      stableAdapter.routes)
    (hconverts : ∀ given, Conversion.structural wire request given = .ok (widen given))
    (hwide : Reader.Leads (fun given wide => wide = widen given) wire.read request.read)
    (hnarrow : Reader.LeadsWhen (fun wide => (port wide).toNat ≤ 65535)
      (fun wide given => wide = widen given) request.read wire.read)
    (hport : ∀ given, (port (widen given)).toNat ≤ 65535) :
    TakesPortOf16 (alphaAdapter number) stableAdapter method widen port := by
  refine .intro ((distinct_alphaAdapter number).route?_eq_some hroute)
    (distinct_stableAdapter.route?_eq_some hstable) hconverts fun params given => ?_
  refine (accept_eq_ok_iff rfl).trans <| Iff.trans ⟨?_, ?_⟩ <|
    and_congr_left' (accept_eq_ok_iff rfl).symm
  · rintro ⟨read, hread, hdecoded⟩
    obtain rfl : widen read = given := Except.ok.inj ((hconverts read).symm.trans hdecoded)
    obtain ⟨_, hread, rfl⟩ := hwide _ _ read hread
    exact ⟨⟨_, hread, rfl⟩, hport read⟩
  · rintro ⟨⟨_, hread, ⟨⟩⟩, hfit⟩
    obtain ⟨read, hwire, rfl⟩ := hnarrow _ _ _ hread hfit
    exact ⟨read, hwire, hconverts read⟩

theorem toUInt32_le (port : UInt16) : port.toUInt32.toNat ≤ 65535 := by
  have hlt := port.toNat_lt
  rw [UInt16.toNat_toUInt32]
  omega

theorem takesPortOf16_portal {record : String} {plan : Portal UInt32 → Plan Response}
    (hroute : portalRoute .alpha method record response plan ∈ (alphaAdapter number).routes)
    (hstable : portalRoute .stable method record response plan ∈ stableAdapter.routes) :
    TakesPortOf16 (alphaAdapter number) stableAdapter method Portal.widen (·.port) :=
  takesPortOf16 hroute hstable (structural_portal record) (leads_portalRequest record)
    (portalRequest_leadsWhen record) fun given => toUInt32_le given.port

theorem takesPortOf16_target {record : String} {plan : Target UInt32 → Plan Response}
    (hroute : targetRoute .alpha method record response plan ∈ (alphaAdapter number).routes)
    (hstable : targetRoute .stable method record response plan ∈ stableAdapter.routes) :
    TakesPortOf16 (alphaAdapter number) stableAdapter method Target.widen (·.portal.port) :=
  takesPortOf16 hroute hstable (structural_target record) (leads_targetRequest record)
    (targetRequest_leadsWhen record) fun given => toUInt32_le given.portal.port

end

/-! ## Listing portals -/

/-- How portals are listed where ports have 16 bits: all of them as they are, in order, or else the
first port that has more is told. -/
structure ListedWithin16 (portals : List (Portal UInt32)) (outcome : Except Fault Json) : Prop where
  listed : ∀ response, outcome = .ok response ↔
    (∀ portal ∈ portals, portal.port.toNat ≤ 65535) ∧
      response = .object [("target_portals", .array (portals.map fun portal =>
        .object [("target_address", .string portal.address),
          ("target_port", .nat portal.port.toNat)]))]
  refused : ∀ before wide after, portals = before ++ wide :: after →
    (∀ portal ∈ before, portal.port.toNat ≤ 65535) → 65535 < wide.port.toNat →
      outcome = .error
        (.unrepresentable "target_port" (toString wide.port.toNat ++ " is out of range"))

/-- Whatever portals the implementation returns for a request, they are listed so. -/
def ListsPortsOf16 (adapter : Adapter Machine) : Prop :=
  ∀ params machine portals,
    (Schema.empty "ListTargetPortalsRequest").read.ofJson params = .ok () →
    ((listPortals ()).run.perform machine).1 = .ok portals →
      ListedWithin16 portals ((adapter.call "ListTargetPortals" params).perform machine).1

theorem isWide_eq_false_iff {portal : Portal UInt32} :
    IsWide portal = false ↔ portal.port.toNat ≤ 65535 := by
  rw [IsWide, decide_eq_false_iff_not]
  omega

theorem listedWithin16_deliver (portals : List (Portal UInt32)) :
    ListedWithin16 portals ((listPortalsRoute .alpha).deliver portals) where
  listed response := by
    rw [deliver_listPortals]
    cases hwide : portals.find? IsWide with
    | some wide =>
      have hnot : IsWide wide = true := List.find?_some hwide
      refine iff_of_false (fun h => nomatch h) fun h => ?_
      rw [isWide_eq_false_iff.mpr (h.1 wide (List.mem_of_find?_eq_some hwide))] at hnot
      cases hnot
    | none =>
      have hfit : ∀ portal ∈ portals, portal.port.toNat ≤ 65535 := fun portal hportal =>
        isWide_eq_false_iff.mp (by simpa using List.find?_eq_none.mp hwide portal hportal)
      exact ⟨fun h => ⟨hfit, (Except.ok.inj h).symm⟩, fun h => congrArg Except.ok h.2.symm⟩
  refused before wide after hportals hbefore hwide := by
    have hnarrow : before.find? IsWide = none := List.find?_eq_none.mpr fun portal hportal => by
      simp [isWide_eq_false_iff.mpr (hbefore portal hportal)]
    have hfirst : IsWide wide = true := by
      rw [← Bool.not_eq_false, isWide_eq_false_iff]
      omega
    rw [deliver_listPortals, hportals, List.find?_append, hnarrow, List.find?_cons_of_pos hfirst]
    rfl

theorem listsPortsOf16 (number : UInt64) : ListsPortsOf16 (alphaAdapter number) := by
  intro params machine portals hread hportals
  have hroute : listPortalsRoute .alpha ∈ (alphaAdapter number).routes := by
    simp [alphaAdapter, routes]
  have htakes : (listPortalsRoute .alpha).Takes (alphaAdapter number).version params () :=
    ⟨hread, rfl, fun _ h => nomatch h⟩
  have hcall : (alphaAdapter number).call "ListTargetPortals" params =
      (listPortalsRoute .alpha).call (alphaAdapter number).version params :=
    Adapter.call_eq_of_routed (distinct_alphaAdapter number) hroute params
  rw [hcall, Route.perform_call, Route.accept_of_takes htakes]
  show ListedWithin16 portals (((listPortals ()).run.perform machine).1.bind _)
  rw [hportals]
  exact listedWithin16_deliver portals

/-! ## The alpha versions -/

/-- An `alphaAdapter` is the `stableAdapter` with ports of 16 bits. The six methods whose requests
have a port take what the stable ones take with such a port, and make the same request of it, with
every field, default and way to log in (`TakesPortOf16`); and portals are listed as the stable
version lists them as long as all their ports are such (`ListsPortsOf16`). -/
theorem alpha_versions_have_ports_of_16_bits (number : UInt64) :
    TakesPortOf16 (alphaAdapter number) stableAdapter "AddTargetPortal" Portal.widen (·.port) ∧
    TakesPortOf16 (alphaAdapter number) stableAdapter "DiscoverTargetPortal" Portal.widen (·.port) ∧
    TakesPortOf16 (alphaAdapter number) stableAdapter "RemoveTargetPortal" Portal.widen (·.port) ∧
    TakesPortOf16 (alphaAdapter number) stableAdapter "ConnectTarget" Login.widen (·.portal.port) ∧
    TakesPortOf16 (alphaAdapter number) stableAdapter "DisconnectTarget" Target.widen
      (·.portal.port) ∧
    TakesPortOf16 (alphaAdapter number) stableAdapter "GetTargetDisks" Target.widen
      (·.portal.port) ∧
    ListsPortsOf16 (alphaAdapter number) := by
  refine ⟨?_, ?_, ?_, ?_, ?_, ?_, listsPortsOf16 number⟩
  · have hroute : addPortalRoute .alpha ∈ (alphaAdapter number).routes := by
      simp [alphaAdapter, routes]
    have hstable : addPortalRoute .stable ∈ stableAdapter.routes := by simp [stableAdapter, routes]
    exact takesPortOf16_portal hroute hstable
  · have hroute : discoverRoute .alpha ∈ (alphaAdapter number).routes := by
      simp [alphaAdapter, routes]
    have hstable : discoverRoute .stable ∈ stableAdapter.routes := by simp [stableAdapter, routes]
    exact takesPortOf16_portal hroute hstable
  · have hroute : removePortalRoute .alpha ∈ (alphaAdapter number).routes := by
      simp [alphaAdapter, routes]
    have hstable : removePortalRoute .stable ∈ stableAdapter.routes := by
      simp [stableAdapter, routes]
    exact takesPortOf16_portal hroute hstable
  · have hroute : connectRoute .alpha ∈ (alphaAdapter number).routes := by
      simp [alphaAdapter, routes]
    have hstable : connectRoute .stable ∈ stableAdapter.routes := by simp [stableAdapter, routes]
    exact takesPortOf16 hroute hstable structural_login leads_login login_leadsWhen
      fun given => toUInt32_le given.portal.port
  · have hroute : disconnectRoute .alpha ∈ (alphaAdapter number).routes := by
      simp [alphaAdapter, routes]
    have hstable : disconnectRoute .stable ∈ stableAdapter.routes := by
      simp [stableAdapter, routes]
    exact takesPortOf16_target hroute hstable
  · have hroute : disksRoute .alpha ∈ (alphaAdapter number).routes := by
      simp [alphaAdapter, routes]
    have hstable : disksRoute .stable ∈ stableAdapter.routes := by simp [stableAdapter, routes]
    exact takesPortOf16_target hroute hstable

end StorageGateway.Iscsi
