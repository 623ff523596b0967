import StorageGateway.Adapter.Conversion

/-!
# iSCSI

What is asked and told about iSCSI: the portals at which targets are found, the targets that are
connected to, and the disks behind them. Ports are numbers of 32 bits; versions before the first
stable one have 16 bits for them, and share everything else.

A request that carries credentials is shown without its secrets.
-/

namespace StorageGateway.Iscsi

/-- The port that is meant by none. -/
def defaultPort : UInt32 := 3260

/-- Where targets are found. -/
structure Portal (Port : Type) where
  /-- The address. -/
  address : String
  /-- The port; zero for the usual one. -/
  port : Port
deriving DecidableEq, Repr

/-- A target at a portal. -/
structure Target (Port : Type) where
  /-- The portal. -/
  portal : Portal Port
  /-- The qualified name of the target. -/
  iqn : String
deriving DecidableEq, Repr

/-- How a target is logged in to. -/
inductive Authentication where
  /-- Without credentials. -/
  | none
  /-- The target asks for credentials. -/
  | oneWayChap
  /-- Both sides ask for credentials. -/
  | mutualChap
deriving DecidableEq, Repr

/-- Asks for a target to be connected. -/
structure Login (Port : Type) where
  /-- The portal. -/
  portal : Portal Port
  /-- The qualified name of the target. -/
  iqn : String
  /-- Whether several paths to the target may be used. -/
  isMultipath : Bool
  /-- How to log in. -/
  authentication : Authentication
  /-- The name to log in with. -/
  username : String
  /-- The secret to log in with. -/
  secret : String
deriving DecidableEq, Repr

/-- The same portal with its port taken to another width. -/
def Portal.mapPort {Port Other : Type} (f : Port → Except Mismatch Other) (portal : Portal Port) :
    Except Mismatch (Portal Other) :=
  (f portal.port).map fun port => ⟨portal.address, port⟩

/-! ## Schemas -/

section
variable {Port : Type}

/-- The schema of a portal, given that of its port. -/
def Portal.schema (port : Schema Port) : Schema (Portal Port) where
  read := .record "TargetPortal" <|
    Portal.mk <$> .required "target_address" .string <*> .required "target_port" port.read
  write p := .object [("target_address", .string p.address), ("target_port", port.write p.port)]

/-- A request that names a portal. -/
def portalRequest (port : Schema Port) (name : String) : Schema (Portal Port) :=
  .single name "target_portal" (Portal.schema port)

/-- A request that names a target. -/
def targetRequest (port : Schema Port) (name : String) : Schema (Target Port) where
  read := .record name <|
    Target.mk <$> .required "target_portal" (Portal.schema port).read <*> .required "iqn" .string
  write t := .object
    [("iqn", .string t.iqn), ("target_portal", (Portal.schema port).write t.portal)]

/-- The names of the ways to log in. -/
def Authentication.names : List (String × Authentication) :=
  [("NONE", .none), ("ONE_WAY_CHAP", .oneWayChap), ("MUTUAL_CHAP", .mutualChap)]

/-- The name of a way to log in. -/
def Authentication.name : Authentication → String
  | .none => "NONE"
  | .oneWayChap => "ONE_WAY_CHAP"
  | .mutualChap => "MUTUAL_CHAP"

/-- The schema of a way to log in. -/
def Authentication.schema : Schema Authentication where
  read := .variant Authentication.names
  write a := .string a.name

/-- The schema of a request to connect a target. -/
def Login.schema (port : Schema Port) : Schema (Login Port) where
  read := .record "ConnectTargetRequest" <|
    Login.mk <$> .required "target_portal" (Portal.schema port).read <*> .required "iqn" .string
      <*> .defaulted "is_multipath" .bool false
      <*> .defaulted "auth_type" Authentication.schema.read .none
      <*> .defaulted "chap_username" .string "" <*> .defaulted "chap_secret" .string ""
  write l := .object [("auth_type", Authentication.schema.write l.authentication),
    ("chap_secret", .string l.secret), ("chap_username", .string l.username),
    ("iqn", .string l.iqn), ("is_multipath", .bool l.isMultipath),
    ("target_portal", (Portal.schema port).write l.portal)]

/-- The schema of a list of portals. -/
def portalsSchema (port : Schema Port) : Schema (List (Portal Port)) :=
  .single "ListTargetPortalsResponse" "target_portals" (.list (Portal.schema port))

end

/-- The schema of a list of target names. -/
def targetsSchema : Schema (List String) :=
  .single "DiscoverTargetPortalResponse" "iqns" (.list .string)

/-- The schema of a list of disks, whose numbers are given as text. -/
def disksSchema : Schema (List String) :=
  .single "GetTargetDisksResponse" "disk_ids" (.list .string)

/-- The schema of a request to change the secret that targets log in with. -/
def secretRequest : Schema String :=
  .single "SetMutualChapSecretRequest" "mutual_chap_secret" .string

/-! ## Requests as they are shown -/

/-- A way to log in as it is shown. -/
def Authentication.shown : Authentication → String
  | .none => "None"
  | .oneWayChap => "OneWayChap"
  | .mutualChap => "MutualChap"

/-- A portal as it is shown. -/
def Portal.shown (portal : Portal UInt32) : String :=
  "TargetPortal \x7b target_address: " ++ Text.quoted portal.address ++
    ", target_port: " ++ toString portal.port.toNat ++ " \x7d"

/-- A request to connect a target as it is shown. -/
def Login.shown (login : Login UInt32) : String :=
  "ConnectTargetRequest \x7b target_portal: " ++ login.portal.shown ++
    ", iqn: " ++ Text.quoted login.iqn ++
    ", is_multipath: " ++ (if login.isMultipath then "true" else "false") ++
    ", auth_type: " ++ login.authentication.shown ++
    ", chap_username: " ++ Text.quoted login.username ++ ", .. \x7d"

/-- A request to change the secret as it is shown, which does not depend on the secret. -/
def shownSecret (_ : String) : String := "SetMutualChapSecretRequest \x7b .. \x7d"

end StorageGateway.Iscsi
