import StorageGateway.Proofs.Host.Rejection
import StorageGateway.Proofs.Iscsi.Views
import StorageGateway.Proofs.Json.Secrets

/-!
# Where credentials go

Three methods take credentials. Two calls that differ in nothing else run the same scripts and have
the same outcome; only the environments of the scripts differ, and these hold the credentials as
they were given. Requests are shown without their secrets.
-/

namespace StorageGateway

open Host

/-- The names of the members that hold credentials. -/
def credentialNames : List String :=
  ["username", "password", "chap_username", "chap_secret", "mutual_chap_secret"]

/-- The names of the members that hold what is not to be shown. -/
def secretNames : List String := ["password", "chap_secret", "mutual_chap_secret"]

/-- The methods that take credentials. -/
def credentialMethods : List String :=
  ["NewSmbGlobalMapping", "ConnectTarget", "SetMutualChapSecret"]

namespace Json

/-- The text of a member, empty if there is none. -/
def textMember (name : String) (params : Json) : String := (params.textMember? name).getD ""

/-- The way to log in that takes no credentials, as a value. -/
def isNoLogin : Json → Bool
  | .string "NONE" => true
  | .object [("NONE", .null)] => true
  | _ => false

/-- Parameters that ask for a login with credentials. -/
def asksLogin (params : Json) : Bool :=
  match params.member? "auth_type" with
  | some value => !value.isNoLogin
  | none => false

end Json

/-- The environment that carries the credentials of a call. -/
def credentials (method : String) (params : Json) : Environment :=
  if method = "NewSmbGlobalMapping" then
    [(Smb.userVariable, params.textMember "username"),
      (Smb.passwordVariable, params.textMember "password")]
  else if method = "ConnectTarget" then
    if params.asksLogin then
      [(Iscsi.userVariable, params.textMember "chap_username"),
        (Iscsi.secretVariable, params.textMember "chap_secret")]
    else []
  else [(Iscsi.secretVariable, params.textMember "mutual_chap_secret")]

/-- Two runs with the same outcome and the same scripts, each script in an environment of its own
run. -/
def RunsAlike (environment environment' : Environment) (machine machine' : Machine)
    (result result' : Except Fault Json × Machine) : Prop :=
  result.1 = result'.1 ∧ ∃ scripts : List String,
    result.2 = (scripts.map (⟨·, environment⟩)).foldl Machine.after machine ∧
    result'.2 = (scripts.map (⟨·, environment'⟩)).foldl Machine.after machine'

section

variable {environment environment' : Environment} {machine machine' : Machine}

theorem RunsAlike.of_error (fault : Fault) :
    RunsAlike environment environment' machine machine' (.error fault, machine)
      (.error fault, machine') :=
  ⟨rfl, [], rfl, rfl⟩

/-! ## Routes -/

/-- Two commands that differ in their environments only. -/
structure Twins {α : Type} (environment environment' : Environment)
    (command command' : Command α) : Prop where
  script : command.script = command'.script
  meaning : command.meaning = command'.meaning
  left : command.environment = environment
  right : command'.environment = environment'

theorem Agree.checked {α : Type} (check : Except Fault Unit) {command command' : Command α}
    (h : Twins environment environment' command command') :
    Agree (Twins environment environment') (Plan.checked check command)
      (Plan.checked check command') := by
  cases check with
  | ok => exact .ok h
  | error fault => exact .error fault

theorem agree_accept {σ : Type} {route : Route σ} {version : Version} {params params' : Json}
    {R : route.WireRequest → route.WireRequest → Prop} {S : route.Request → route.Request → Prop}
    (hread : Agree R (route.requestSchema.read.ofJson params)
      (route.requestSchema.read.ofJson params'))
    (hdecode : ∀ wire wire', R wire wire' → ∃ request request',
      route.operation.decode wire = .ok request ∧ route.operation.decode wire' = .ok request' ∧
        S request request') :
    Agree S (route.accept version params) (route.accept version params') := by
  unfold Route.accept
  generalize route.requestSchema.read.ofJson params = outcome at hread
  generalize route.requestSchema.read.ofJson params' = outcome' at hread
  cases hread with
  | error refusal => exact .error _
  | @ok wire wire' hwire =>
    obtain ⟨request, request', hdecoded, hdecoded', hrelated⟩ := hdecode wire wire' hwire
    simp only [Operation.accept, hdecoded, hdecoded']
    cases route.operation.since with
    | none => exact .ok hrelated
    | some minimum =>
      by_cases hoffered : version.atLeast minimum = true
      · simp only [if_pos hoffered]
        exact .ok hrelated
      · simp only [if_neg hoffered]
        exact .error _

/-- Calls whose requests are planned as twins. -/
theorem runsAlike_of_accept {WireRequest Request Response WireResponse : Type}
    {operation : Operation WireRequest Request Response WireResponse}
    {requestSchema : Schema WireRequest} {responseSchema : Schema WireResponse}
    {plan : Request → Plan Response} {version : Version} {params params' : Json}
    (haccept : Agree
      (fun request request' =>
        Agree (Twins environment environment') (plan request) (plan request'))
      ((Plan.route operation requestSchema responseSchema plan).accept version params)
      ((Plan.route operation requestSchema responseSchema plan).accept version params'))
    (hanswers : ∀ script,
      machine.answer ⟨script, environment⟩ = machine'.answer ⟨script, environment'⟩) :
    RunsAlike environment environment' machine machine'
      (((Plan.route operation requestSchema responseSchema plan).call version params).perform
        machine)
      (((Plan.route operation requestSchema responseSchema plan).call version params').perform
        machine') := by
  rw [Route.perform_call, Route.perform_call]
  generalize (Plan.route operation requestSchema responseSchema plan).accept version params =
    outcome at haccept
  generalize (Plan.route operation requestSchema responseSchema plan).accept version params' =
    outcome' at haccept
  cases haccept with
  | error fault => exact .of_error fault
  | @ok request request' hplan =>
    show RunsAlike _ _ _ _
      (((plan request).run.perform machine).1.bind _, ((plan request).run.perform machine).2)
      (((plan request').run.perform machine').1.bind _, ((plan request').run.perform machine').2)
    generalize plan request = planned at hplan
    generalize plan request' = planned' at hplan
    cases hplan with
    | error fault => exact .of_error fault
    | @ok command command' htwins =>
      have hinvocation : command.invocation = ⟨command.script.text, environment⟩ := by
        rw [Command.invocation, htwins.left]
      have hinvocation' : command'.invocation = ⟨command.script.text, environment'⟩ := by
        rw [Command.invocation, htwins.right, htwins.script]
      rw [Plan.run, Plan.run, Command.perform_run, Command.perform_run, hinvocation, hinvocation',
        hanswers, htwins.meaning]
      exact ⟨rfl, [command.script.text], rfl, rfl⟩

theorem runsAlike_of_read {WireRequest Request Response WireResponse : Type}
    {operation : Operation WireRequest Request Response WireResponse}
    {requestSchema : Schema WireRequest} {responseSchema : Schema WireResponse}
    {plan : Request → Plan Response} {version : Version} {params params' : Json}
    {R : WireRequest → WireRequest → Prop}
    (hread : Agree R (requestSchema.read.ofJson params) (requestSchema.read.ofJson params'))
    (hplan : ∀ wire wire', R wire wire' → ∃ request request',
      operation.decode wire = .ok request ∧ operation.decode wire' = .ok request' ∧
        Agree (Twins environment environment') (plan request) (plan request'))
    (hanswers : ∀ script,
      machine.answer ⟨script, environment⟩ = machine'.answer ⟨script, environment'⟩) :
    RunsAlike environment environment' machine machine'
      (((Plan.route operation requestSchema responseSchema plan).call version params).perform
        machine)
      (((Plan.route operation requestSchema responseSchema plan).call version params').perform
        machine') := by
  let route := Plan.route operation requestSchema responseSchema plan
  have haccept : Agree (fun request request' =>
      Agree (Twins environment environment') (plan request) (plan request'))
      (route.accept version params) (route.accept version params') :=
    @agree_accept _ route version params params' R _ hread hplan
  exact runsAlike_of_accept haccept hanswers

theorem runsAlike_of_routes {adapter : Adapter Machine} {method : String} {params params' : Json}
    (h : ∀ route ∈ adapter.routes, route.name = method →
      RunsAlike environment environment' machine machine'
        ((route.call adapter.version params).perform machine)
        ((route.call adapter.version params').perform machine')) :
    RunsAlike environment environment' machine machine'
      ((adapter.call method params).perform machine)
      ((adapter.call method params').perform machine') := by
  unfold Adapter.call
  cases hroute : adapter.route? method with
  | none => exact .of_error _
  | some route =>
    have hname : route.name = method := by simpa using List.find?_some hroute
    exact h route (List.mem_of_find?_eq_some hroute) hname

end

/-! ## Texts of requests -/

namespace Json

section

variable {names : List String} {examine : String → Reader Unit}
  {members : List (String × Json)} {kept : List (String × Document)} {name : String}

theorem member?_of_kept
    (hkept : examineMembers names examine .value [] (memberDocuments members) = .ok kept)
    (hname : name ∈ names) :
    kept.lookup name = ((object members).member? name).map toDocument := by
  rw [lookup_of_examineMembers hkept hname, List.lookup_nil, Option.none_or,
    lookup_memberDocuments]
  rfl

theorem textMember_of_some
    (hkept : examineMembers names examine .value [] (memberDocuments members) = .ok kept)
    (hname : name ∈ names) {document : Document} (hlookup : kept.lookup name = some document)
    {text : String} (hread : Reader.string .value document = .ok text) :
    (object members).textMember name = text := by
  rw [member?_of_kept hkept hname] at hlookup
  obtain ⟨value, hmember, rfl⟩ := Option.map_eq_some_iff.mp hlookup
  obtain rfl : value = .string text := Reader.string_ofJson_eq_ok_iff.mp hread
  simp [textMember, textMember?, hmember, text?]

theorem textMember_of_none
    (hkept : examineMembers names examine .value [] (memberDocuments members) = .ok kept)
    (hname : name ∈ names) (hlookup : kept.lookup name = none) :
    (object members).textMember name = "" := by
  rw [member?_of_kept hkept hname] at hlookup
  have hmember : (object members).member? name = none := Option.map_eq_none_iff.mp hlookup
  simp [textMember, textMember?, hmember]

end

end Json

/-! ## Mappings -/

namespace Smb

open Json

variable {members members' : List (String × Json)}

/-- Two requests for the same share and the same link. -/
def SamePaths (mapping mapping' : NewMapping) : Prop :=
  mapping.remotePath = mapping'.remotePath ∧ mapping.localPath = mapping'.localPath

theorem agree_newMapping (h : DifferIn credentialNames members members') :
    Agree SamePaths (NewMapping.schema.read.ofJson (.object members))
      (NewMapping.schema.read.ofJson (.object members')) := by
  refine Reader.agree_record _ ?_ h
  refine .seq (.seq (.seq (.map (Fields.agrees_required_open (by decide) _) ?_)
    (Fields.agrees_defaulted_open (by decide) _ _)) (Fields.agrees_text ..))
    (Fields.agrees_text ..)
  rintro remotePath _ rfl localPath _ rfl username username' - password password' -
  exact ⟨rfl, rfl⟩

theorem agree_plainMapping (h : DifferIn credentialNames members members') :
    Agree (fun mapping mapping' => mapping.remotePath = mapping'.remotePath)
      (PlainMapping.schema.read.ofJson (.object members))
      (PlainMapping.schema.read.ofJson (.object members')) := by
  refine Reader.agree_record _ ?_ h
  refine .seq (.seq (.map (Fields.agrees_required_open (by decide) _) ?_)
    (Fields.agrees_text ..)) (Fields.agrees_text ..)
  rintro remotePath _ rfl username username' - password password' -
  rfl

theorem texts_of_newMapping {mapping : NewMapping}
    (h : NewMapping.schema.read.ofJson (.object members) = .ok mapping) :
    mapping.username = (object members).textMember "username" ∧
      mapping.password = (object members).textMember "password" := by
  obtain ⟨kept, hkept, hread⟩ := Reader.record_object_eq_ok_iff.mp h
  simp only [Fields.ofMembers_seq_eq_ok_iff, Fields.ofMembers_map_eq_ok_iff,
    Fields.ofMembers_required_eq_ok_iff] at hread
  obtain ⟨_, password, ⟨_, username, ⟨_, _, ⟨_, -, rfl⟩, -, rfl⟩, ⟨_, huser, hname⟩, rfl⟩,
    ⟨_, hsecret, hpassword⟩, rfl⟩ := hread
  exact ⟨(textMember_of_some hkept (by simp) huser hname).symm,
    (textMember_of_some hkept (by simp) hsecret hpassword).symm⟩

theorem texts_of_plainMapping {mapping : PlainMapping}
    (h : PlainMapping.schema.read.ofJson (.object members) = .ok mapping) :
    mapping.username = (object members).textMember "username" ∧
      mapping.password = (object members).textMember "password" := by
  obtain ⟨kept, hkept, hread⟩ := Reader.record_object_eq_ok_iff.mp h
  simp only [Fields.ofMembers_seq_eq_ok_iff, Fields.ofMembers_map_eq_ok_iff,
    Fields.ofMembers_required_eq_ok_iff] at hread
  obtain ⟨_, password, ⟨_, username, ⟨_, -, rfl⟩, ⟨_, huser, hname⟩, rfl⟩,
    ⟨_, hsecret, hpassword⟩, rfl⟩ := hread
  exact ⟨(textMember_of_some hkept (by simp) huser hname).symm,
    (textMember_of_some hkept (by simp) hsecret hpassword).symm⟩

theorem agree_map {environment environment' : Environment} {mapping mapping' : NewMapping}
    (hpaths : SamePaths mapping mapping')
    (henvironment : [(userVariable, mapping.username), (passwordVariable, mapping.password)] =
      environment)
    (henvironment' : [(userVariable, mapping'.username), (passwordVariable, mapping'.password)] =
      environment') :
    Agree (Twins environment environment') (map mapping) (map mapping') := by
  obtain ⟨hremote, hlocal⟩ := hpaths
  unfold map
  rw [hremote]
  refine .checked _ ⟨?_, rfl, henvironment, henvironment'⟩
  simp only [linkScript, hremote, hlocal]

end Smb

/-! ## Logins -/

namespace Iscsi

open Json

variable {Port : Type} {members members' : List (String × Json)}

/-- Two requests for the same login, with whatever credentials. -/
def SameLogin (login login' : Login Port) : Prop :=
  login.portal = login'.portal ∧ login.iqn = login'.iqn ∧
    login.isMultipath = login'.isMultipath ∧ login.authentication = login'.authentication

theorem agree_login (port : Schema Port) (h : DifferIn credentialNames members members') :
    Agree SameLogin ((Login.schema port).read.ofJson (.object members))
      ((Login.schema port).read.ofJson (.object members')) := by
  refine Reader.agree_record _ ?_ h
  refine .seq (.seq (.seq (.seq (.seq (.map (Fields.agrees_required_open (by decide) _) ?_)
    (Fields.agrees_required_open (by decide) _)) (Fields.agrees_defaulted_open (by decide) _ _))
    (Fields.agrees_defaulted_open (by decide) _ _)) (Fields.agrees_text ..))
    (Fields.agrees_text ..)
  rintro portal _ rfl iqn _ rfl isMultipath _ rfl authentication _ rfl username username' -
    secret secret' -
  exact ⟨rfl, rfl, rfl, rfl⟩

theorem name_of_choose {name : String} {authentication : Authentication}
    (h : Reader.variant.choose Authentication.names name = .ok authentication) :
    name = authentication.name := by
  unfold Reader.variant.choose at h
  split at h
  · rename_i chosen hlookup
    cases h
    obtain ⟨before, after, hnames, -⟩ := List.lookup_eq_some_iff.mp hlookup
    have hin : (name, authentication) ∈ Authentication.names := by
      rw [hnames]
      simp
    simp only [Authentication.names, List.mem_cons, Prod.mk.injEq, List.not_mem_nil,
      or_false] at hin
    rcases hin with ⟨rfl, rfl⟩ | ⟨rfl, rfl⟩ | ⟨rfl, rfl⟩ <;> rfl
  · cases h

theorem isNoLogin_iff {value : Json} {authentication : Authentication}
    (h : Authentication.schema.read.ofJson value = .ok authentication) :
    value.isNoLogin = true ↔ authentication = .none := by
  cases value with
  | string name =>
    obtain rfl := name_of_choose h
    cases authentication <;> decide
  | object members =>
    rcases members with - | ⟨⟨name, value⟩, - | ⟨second, rest⟩⟩
    · cases h
    · obtain ⟨chosen, hchosen, hvalue⟩ := bind_eq_ok_iff.mp h
      obtain rfl := name_of_choose hchosen
      cases value with
      | null =>
        cases hvalue
        cases authentication <;> decide
      | _ => exact absurd hvalue (Document.refuse_ne_ok _ _ _)
    · cases h
  | _ => exact absurd h (Document.refuse_ne_ok _ _ _)

theorem texts_of_login {port : Schema Port} {login : Login Port}
    (h : (Login.schema port).read.ofJson (.object members) = .ok login) :
    login.username = (object members).textMember "chap_username" ∧
      login.secret = (object members).textMember "chap_secret" ∧
      ((object members).asksLogin = false ↔ login.authentication = .none) := by
  obtain ⟨kept, hkept, hread⟩ := Reader.record_object_eq_ok_iff.mp h
  simp only [Fields.ofMembers_seq_eq_ok_iff, Fields.ofMembers_map_eq_ok_iff,
    Fields.ofMembers_required_eq_ok_iff, Fields.ofMembers_defaulted_eq_ok_iff] at hread
  obtain ⟨_, secret, ⟨_, username, ⟨_, authentication, ⟨_, _, ⟨_, _, ⟨_, -, rfl⟩, -, rfl⟩, -,
    rfl⟩, hauthentication, rfl⟩, husername, rfl⟩, hsecret, rfl⟩ := hread
  refine ⟨?_, ?_, ?_⟩
  · rcases husername with ⟨document, hlookup, htext⟩ | ⟨hlookup, hempty⟩
    · exact (textMember_of_some hkept (by simp) hlookup htext).symm
    · rw [textMember_of_none hkept (by simp) hlookup]
      exact hempty.symm
  · rcases hsecret with ⟨document, hlookup, htext⟩ | ⟨hlookup, hempty⟩
    · exact (textMember_of_some hkept (by simp) hlookup htext).symm
    · rw [textMember_of_none hkept (by simp) hlookup]
      exact hempty.symm
  · unfold asksLogin
    rcases hauthentication with ⟨document, hlookup, hchosen⟩ | ⟨hlookup, hnone⟩
    · rw [member?_of_kept hkept (by simp)] at hlookup
      obtain ⟨value, hmember, rfl⟩ := Option.map_eq_some_iff.mp hlookup
      have hvalue := isNoLogin_iff hchosen
      rw [hmember]
      simpa using hvalue
    · rw [member?_of_kept hkept (by simp)] at hlookup
      rw [Option.map_eq_none_iff.mp hlookup]
      simpa using hnone.symm

theorem texts_of_secret {secret : String}
    (h : secretRequest.read.ofJson (.object members) = .ok secret) :
    secret = (object members).textMember "mutual_chap_secret" := by
  obtain ⟨kept, hkept, hread⟩ := Reader.record_object_eq_ok_iff.mp h
  obtain ⟨document, hlookup, htext⟩ := Fields.ofMembers_required_eq_ok_iff.mp hread
  exact (textMember_of_some hkept (by simp) hlookup htext).symm

theorem loginEnvironment_eq {login : Login UInt32} {params : Json}
    (husername : login.username = params.textMember "chap_username")
    (hsecret : login.secret = params.textMember "chap_secret")
    (hlogin : params.asksLogin = false ↔ login.authentication = .none) :
    loginEnvironment login = credentials "ConnectTarget" params := by
  unfold loginEnvironment credentials
  rw [if_neg (by decide), if_pos rfl, husername, hsecret]
  cases hauthentication : login.authentication with
  | none =>
    rw [hlogin.mpr hauthentication]
    rfl
  | _ =>
    have hasks : params.asksLogin = true := by
      rw [← Bool.not_eq_false, hlogin, hauthentication]
      exact Authentication.noConfusion
    rw [hasks]
    rfl

theorem agree_connect {environment environment' : Environment} {login login' : Login UInt32}
    (hsame : SameLogin login login') (henvironment : loginEnvironment login = environment)
    (henvironment' : loginEnvironment login' = environment') :
    Agree (Twins environment environment') (connect login) (connect login') := by
  obtain ⟨hportal, hiqn, hmultipath, hauthentication⟩ := hsame
  unfold connect
  rw [hportal, hiqn]
  refine .checked _ ⟨?_, rfl, henvironment, henvironment'⟩
  simp only [hmultipath, hauthentication]

end Iscsi

/-! ## Calls -/

/-- A route whose requests hold credentials, and how its requests are shown. -/
structure Confidential where
  route : Route Machine
  shown : route.Request → String

/-- The routes whose requests hold credentials. -/
def confidential : List Confidential := [
  ⟨Smb.mapRoute (.structural Smb.PlainMapping.schema Smb.NewMapping.schema) Smb.PlainMapping.schema,
    Smb.NewMapping.shown⟩,
  ⟨Smb.mapRoute .same Smb.NewMapping.schema, Smb.NewMapping.shown⟩,
  ⟨Iscsi.connectRoute .alpha, Iscsi.Login.shown⟩,
  ⟨Iscsi.connectRoute .stable, Iscsi.Login.shown⟩,
  ⟨Iscsi.secretRoute (some (Group.draft .alpha 2)), Iscsi.shownSecret⟩,
  ⟨Iscsi.secretRoute none, Iscsi.shownSecret⟩]

theorem exists_confidential {adapter : Adapter Machine}
    (hadapter : adapter ∈ Smb.adapters ++ Iscsi.adapters) {route : Route Machine}
    (hroute : route ∈ adapter.routes) (hname : route.name ∈ credentialMethods) :
    ∃ entry ∈ confidential, entry.route = route := by
  simp only [Smb.adapters, Iscsi.adapters, List.cons_append, List.nil_append, List.mem_cons,
    List.not_mem_nil, or_false] at hadapter
  rcases hadapter with rfl | rfl | rfl | rfl | rfl
  all_goals
    simp only [Smb.betaAdapter, Smb.stableAdapter, Iscsi.alphaAdapter, Iscsi.stableAdapter,
      Iscsi.routes, List.mem_cons, List.not_mem_nil, or_false] at hroute
  · rcases hroute with rfl | rfl
    · exact ⟨confidential[0], List.getElem_mem _, rfl⟩
    · exact absurd hname (by decide)
  · rcases hroute with rfl | rfl
    · exact ⟨confidential[1], List.getElem_mem _, rfl⟩
    · exact absurd hname (by decide)
  all_goals
    rcases hroute with rfl | rfl | rfl | rfl | rfl | rfl | rfl | rfl
    on_goal 5 => first
      | exact ⟨confidential[2], List.getElem_mem _, rfl⟩
      | exact ⟨confidential[3], List.getElem_mem _, rfl⟩
    on_goal 7 => first
      | exact ⟨confidential[4], List.getElem_mem _, rfl⟩
      | exact ⟨confidential[5], List.getElem_mem _, rfl⟩
    all_goals exact absurd hname (by decide)

/-- The shells of two machines give the same answers to two calls, each in the environment of its
own call. -/
def SameAnswers (method : String) (params params' : Json) (machine machine' : Machine) : Prop :=
  ∀ script, machine.answer ⟨script, credentials method params⟩ =
    machine'.answer ⟨script, credentials method params'⟩

/-- Calls of a route that differ in credentials differ in their environments only. -/
def KeepsCredentials (route : Route Machine) : Prop :=
  ∀ version members members' machine machine', Json.DifferIn credentialNames members members' →
    SameAnswers route.name (.object members) (.object members') machine machine' →
    RunsAlike (credentials route.name (.object members))
      (credentials route.name (.object members')) machine machine'
      ((route.call version (.object members)).perform machine)
      ((route.call version (.object members')).perform machine')

/-- The way in which a request is shown does not tell the secrets that it is read from. -/
def HidesSecrets (entry : Confidential) : Prop :=
  ∀ members members', Json.DifferIn secretNames members members' →
    ∀ request request', entry.route.Reads (.object members) request →
      entry.route.Reads (.object members') request' → entry.shown request = entry.shown request'

section

open Smb Iscsi

theorem keepsCredentials_plainMapping :
    KeepsCredentials (mapRoute (.structural PlainMapping.schema NewMapping.schema)
      PlainMapping.schema) := by
  intro version members members' machine machine' hdiffer hanswers
  have hread := (agree_plainMapping hdiffer).and (fun _ => texts_of_plainMapping)
    fun _ => texts_of_plainMapping
  refine runsAlike_of_read hread ?_ hanswers
  rintro wire wire' ⟨hshare, ⟨huser, hpassword⟩, huser', hpassword'⟩
  refine ⟨⟨wire.remotePath, "", wire.username, wire.password⟩,
    ⟨wire'.remotePath, "", wire'.username, wire'.password⟩, rfl, rfl, ?_⟩
  refine agree_map ⟨hshare, rfl⟩ ?_ ?_
  · rw [huser, hpassword]
    rfl
  · rw [huser', hpassword']
    rfl

theorem keepsCredentials_newMapping :
    KeepsCredentials (mapRoute .same NewMapping.schema) := by
  intro version members members' machine machine' hdiffer hanswers
  have hread := (agree_newMapping hdiffer).and (fun _ => texts_of_newMapping)
    fun _ => texts_of_newMapping
  refine runsAlike_of_read hread ?_ hanswers
  rintro wire wire' ⟨hpaths, ⟨huser, hpassword⟩, huser', hpassword'⟩
  refine ⟨wire, wire', rfl, rfl, agree_map hpaths ?_ ?_⟩
  · rw [huser, hpassword]
    rfl
  · rw [huser', hpassword']
    rfl

theorem keepsCredentials_alphaLogin : KeepsCredentials (connectRoute .alpha) := by
  intro version members members' machine machine' hdiffer hanswers
  have hread := (agree_login .u16 hdiffer).and (fun _ => texts_of_login) fun _ => texts_of_login
  refine runsAlike_of_read hread ?_ hanswers
  rintro wire wire' ⟨⟨hportal, hrest⟩, ⟨huser, hsecret, hlogin⟩, huser', hsecret', hlogin'⟩
  refine ⟨wire.widen, wire'.widen, structural_login wire, structural_login wire', ?_⟩
  have hsame : SameLogin wire.widen wire'.widen := ⟨congrArg Portal.widen hportal, hrest⟩
  exact agree_connect hsame (loginEnvironment_eq huser hsecret hlogin)
    (loginEnvironment_eq huser' hsecret' hlogin')

theorem keepsCredentials_stableLogin : KeepsCredentials (connectRoute .stable) := by
  intro version members members' machine machine' hdiffer hanswers
  have hread := (agree_login .u32 hdiffer).and (fun _ => texts_of_login) fun _ => texts_of_login
  refine runsAlike_of_read hread ?_ hanswers
  rintro wire wire' ⟨hsame, ⟨huser, hsecret, hlogin⟩, huser', hsecret', hlogin'⟩
  refine ⟨wire, wire', rfl, rfl, ?_⟩
  exact agree_connect hsame (loginEnvironment_eq huser hsecret hlogin)
    (loginEnvironment_eq huser' hsecret' hlogin')

theorem keepsCredentials_secret (since : Option Version) :
    KeepsCredentials (secretRoute since) := by
  intro version members members' machine machine' hdiffer hanswers
  have hread := (Json.Reader.agree_record "SetMutualChapSecretRequest"
    (Json.Fields.agrees_text "mutual_chap_secret" none none) hdiffer).and
    (fun _ => texts_of_secret) fun _ => texts_of_secret
  refine runsAlike_of_read hread ?_ hanswers
  rintro secret secret' ⟨-, htext, htext'⟩
  refine ⟨secret, secret', rfl, rfl, .ok ⟨rfl, rfl, ?_, ?_⟩⟩
  · rw [htext]
    rfl
  · rw [htext']
    rfl

theorem keepsCredentials {entry : Confidential} (hentry : entry ∈ confidential) :
    KeepsCredentials entry.route := by
  simp only [confidential, List.mem_cons, List.not_mem_nil, or_false] at hentry
  rcases hentry with rfl | rfl | rfl | rfl | rfl | rfl
  · exact keepsCredentials_plainMapping
  · exact keepsCredentials_newMapping
  · exact keepsCredentials_alphaLogin
  · exact keepsCredentials_stableLogin
  · exact keepsCredentials_secret _
  · exact keepsCredentials_secret none

/-! ### Requests as they are shown -/

theorem credentialNames_of_secretNames : secretNames ⊆ credentialNames := by decide

theorem textMember_eq {members members' : List (String × Json)} {name : String}
    (h : Json.DifferIn secretNames members members') (hopen : name ∉ secretNames) :
    (Json.object members).textMember name = (Json.object members').textMember name := by
  have hmember : (Json.object members).member? name = (Json.object members').member? name :=
    h.lookup_eq hopen
  rw [Json.textMember, Json.textMember, Json.textMember?, Json.textMember?, hmember]

section

variable {members members' : List (String × Json)}
  (hdiffer : Json.DifferIn secretNames members members')
include hdiffer

theorem shown_eq_of_plainMapping {wire wire' : PlainMapping}
    (hread : PlainMapping.schema.read.ofJson (.object members) = .ok wire)
    (hread' : PlainMapping.schema.read.ofJson (.object members') = .ok wire') :
    NewMapping.shown ⟨wire.remotePath, "", wire.username, wire.password⟩ =
      NewMapping.shown ⟨wire'.remotePath, "", wire'.username, wire'.password⟩ := by
  have hshare := (agree_plainMapping (hdiffer.of_subset credentialNames_of_secretNames)).of_ok
    hread hread'
  have huser : wire.username = wire'.username := by
    rw [(texts_of_plainMapping hread).1, (texts_of_plainMapping hread').1,
      textMember_eq hdiffer (by decide)]
  unfold NewMapping.shown
  rw [hshare, huser]

theorem shown_eq_of_newMapping {mapping mapping' : NewMapping}
    (hread : NewMapping.schema.read.ofJson (.object members) = .ok mapping)
    (hread' : NewMapping.schema.read.ofJson (.object members') = .ok mapping') :
    mapping.shown = mapping'.shown := by
  obtain ⟨hremote, hlocal⟩ :=
    (agree_newMapping (hdiffer.of_subset credentialNames_of_secretNames)).of_ok hread hread'
  have huser : mapping.username = mapping'.username := by
    rw [(texts_of_newMapping hread).1, (texts_of_newMapping hread').1,
      textMember_eq hdiffer (by decide)]
  unfold NewMapping.shown
  rw [hremote, hlocal, huser]

theorem sameLogin_of_read {Port : Type} {port : Schema Port} {login login' : Login Port}
    (hread : (Login.schema port).read.ofJson (.object members) = .ok login)
    (hread' : (Login.schema port).read.ofJson (.object members') = .ok login') :
    SameLogin login login' ∧ login.username = login'.username := by
  constructor
  · have hcredentials := hdiffer.of_subset credentialNames_of_secretNames
    exact (agree_login port hcredentials).of_ok hread hread'
  · rw [(texts_of_login hread).1, (texts_of_login hread').1, textMember_eq hdiffer (by decide)]

end

theorem Iscsi.shown_eq {login login' : Login UInt32} (hsame : SameLogin login login')
    (huser : login.username = login'.username) : login.shown = login'.shown := by
  obtain ⟨hportal, hiqn, hmultipath, hauthentication⟩ := hsame
  unfold Login.shown
  rw [hportal, hiqn, hmultipath, hauthentication, huser]

theorem hidesSecrets_plainMapping :
    HidesSecrets ⟨mapRoute (.structural PlainMapping.schema NewMapping.schema) PlainMapping.schema,
      NewMapping.shown⟩ := by
  rintro members members' hdiffer request request' ⟨wire, hread, hdecoded⟩
    ⟨wire', hread', hdecoded'⟩
  obtain rfl := Except.ok.inj hdecoded
  obtain rfl := Except.ok.inj hdecoded'
  exact shown_eq_of_plainMapping hdiffer hread hread'

theorem hidesSecrets_newMapping :
    HidesSecrets ⟨mapRoute .same NewMapping.schema, NewMapping.shown⟩ := by
  rintro members members' hdiffer request request' ⟨wire, hread, hdecoded⟩
    ⟨wire', hread', hdecoded'⟩
  obtain rfl := Except.ok.inj hdecoded
  obtain rfl := Except.ok.inj hdecoded'
  exact shown_eq_of_newMapping hdiffer hread hread'

theorem hidesSecrets_alphaLogin : HidesSecrets ⟨connectRoute .alpha, Login.shown⟩ := by
  rintro members members' hdiffer request request' ⟨wire, hread, hdecoded⟩
    ⟨wire', hread', hdecoded'⟩
  obtain rfl := Except.ok.inj ((structural_login wire).symm.trans hdecoded)
  obtain rfl := Except.ok.inj ((structural_login wire').symm.trans hdecoded')
  obtain ⟨⟨hportal, hrest⟩, huser⟩ := sameLogin_of_read hdiffer hread hread'
  exact Iscsi.shown_eq ⟨congrArg Portal.widen hportal, hrest⟩ huser

theorem hidesSecrets_stableLogin : HidesSecrets ⟨connectRoute .stable, Login.shown⟩ := by
  rintro members members' hdiffer request request' ⟨wire, hread, hdecoded⟩
    ⟨wire', hread', hdecoded'⟩
  obtain rfl := Except.ok.inj hdecoded
  obtain rfl := Except.ok.inj hdecoded'
  obtain ⟨hsame, huser⟩ := sameLogin_of_read hdiffer hread hread'
  exact Iscsi.shown_eq hsame huser

theorem hidesSecrets {entry : Confidential} (hentry : entry ∈ confidential) :
    HidesSecrets entry := by
  simp only [confidential, List.mem_cons, List.not_mem_nil, or_false] at hentry
  rcases hentry with rfl | rfl | rfl | rfl | rfl | rfl
  · exact hidesSecrets_plainMapping
  · exact hidesSecrets_newMapping
  · exact hidesSecrets_alphaLogin
  · exact hidesSecrets_stableLogin
  all_goals exact fun _ _ _ _ _ _ _ => rfl

end

/-- Secrets do not flow. Two calls of one of the `credentialMethods`, with objects that differ in
the texts of credentials only (`Json.DifferIn`), run the same scripts and have the same outcome when
the shells give the same answers (`RunsAlike`), at every version; what differs is the environment,
which holds the credentials as they were given. And the requests that are read from objects that
differ in secrets only are shown alike, for every entry of `confidential`. -/
theorem credentials_stay_in_environment :
    (∀ adapter ∈ Smb.adapters ++ Iscsi.adapters, ∀ method ∈ credentialMethods,
      ∀ members members', Json.DifferIn credentialNames members members' →
      ∀ machine machine',
        SameAnswers method (.object members) (.object members') machine machine' →
        RunsAlike (credentials method (.object members)) (credentials method (.object members'))
          machine machine' ((adapter.call method (.object members)).perform machine)
          ((adapter.call method (.object members')).perform machine')) ∧
    (∀ adapter ∈ Smb.adapters ++ Iscsi.adapters, ∀ route ∈ adapter.routes,
      route.name ∈ credentialMethods → ∃ entry ∈ confidential, entry.route = route) ∧
    ∀ entry ∈ confidential, ∀ members members', Json.DifferIn secretNames members members' →
      ∀ request request', entry.route.Reads (.object members) request →
        entry.route.Reads (.object members') request' →
        entry.shown request = entry.shown request' := by
  refine ⟨?_, fun _ hadapter _ hroute hname => exists_confidential hadapter hroute hname,
    fun _ hentry => hidesSecrets hentry⟩
  intro adapter hadapter method hmethod members members' hdiffer machine machine' hanswers
  refine runsAlike_of_routes fun route hroute hname => ?_
  subst hname
  obtain ⟨entry, hentry, rfl⟩ := exists_confidential hadapter hroute hmethod
  exact keepsCredentials hentry adapter.version members members' machine machine' hdiffer hanswers

/-- Asks for a target to be connected with a secret. -/
def loginMembers (secret : String) : List (String × Json) :=
  [("auth_type", .string "ONE_WAY_CHAP"), ("chap_secret", .string secret),
    ("chap_username", .string "alice"), ("iqn", .string "iqn.x"),
    ("target_portal", .object [("target_address", .string "10.0.0.5"), ("target_port", .nat 0)])]

theorem login_secret_stays_in_environment :
    Json.DifferIn credentialNames (loginMembers "s1") (loginMembers "s2") ∧
    RunsAlike [("HOSTPROXY_ISCSI_CHAP_USER", "alice"), ("HOSTPROXY_ISCSI_CHAP_SECRET", "s1")]
      [("HOSTPROXY_ISCSI_CHAP_USER", "alice"), ("HOSTPROXY_ISCSI_CHAP_SECRET", "s2")]
      emptyMachine emptyMachine
      (((Iscsi.alphaAdapter 2).call "ConnectTarget" (.object (loginMembers "s1"))).perform
        emptyMachine)
      (((Iscsi.alphaAdapter 2).call "ConnectTarget" (.object (loginMembers "s2"))).perform
        emptyMachine) ∧
    (((Iscsi.alphaAdapter 2).call "ConnectTarget" (.object (loginMembers "s1"))).perform
      emptyMachine).2.shell.ran.map Invocation.environment =
      [[("HOSTPROXY_ISCSI_CHAP_USER", "alice"), ("HOSTPROXY_ISCSI_CHAP_SECRET", "s1")]] := by
  have hdiffer : Json.DifferIn credentialNames (loginMembers "s1") (loginMembers "s2") := by
    simp [Json.DifferIn, loginMembers, credentialNames]
  refine ⟨hdiffer, ?_, by decide +kernel⟩
  exact credentials_stay_in_environment.1 (Iscsi.alphaAdapter 2)
    (by simp [Iscsi.adapters]) "ConnectTarget" (by simp [credentialMethods]) _ _ hdiffer
    emptyMachine emptyMachine fun _ => rfl

end StorageGateway
