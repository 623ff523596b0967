import StorageGateway.Host.Machine
import StorageGateway.Iscsi.Model

/-!
# iSCSI operations on the host

Each iSCSI operation comes down to one script over the host's initiator cmdlets. A request without
an address where one is needed, or without the name of a target, is turned away. Credentials travel
in the environment.
-/

namespace StorageGateway.Iscsi

open Host

/-! ## What the host prints -/

/-- A row of the host's list of portals. -/
def portalRow : Json.Reader (Portal UInt32) :=
  .record "PortalRow" <|
    Portal.mk <$> .required "TargetPortalAddress" .string
      <*> .required "TargetPortalPortNumber" .u32

/-! ## Pieces of scripts -/

/-- The variable with the name to log in with. -/
def userVariable : String := "HOSTPROXY_ISCSI_CHAP_USER"

/-- The variable with the secret to log in with. -/
def secretVariable : String := "HOSTPROXY_ISCSI_CHAP_SECRET"

/-- Turns away a portal without an address. -/
def requireAddress (portal : Portal UInt32) : Except Fault Unit :=
  if Text.isBlankText portal.address then
    .error (.invalidArgument "target_address must not be empty")
  else .ok ()

/-- Turns away a request that does not name a target. -/
def requireTarget (iqn : String) : Except Fault Unit :=
  if Text.isBlankText iqn then .error (.invalidArgument "iqn must not be empty") else .ok ()

/-- The port of a portal, which is the usual one when none is given. -/
def Portal.effectivePort (portal : Portal UInt32) : UInt32 :=
  if portal.port = 0 then defaultPort else portal.port

/-- The arguments that name a portal. -/
def portalArguments (portal : Portal UInt32) : Script :=
  [.code "-TargetPortalAddress ", .literal portal.address,
    .code " -TargetPortalPortNumber ", .number portal.effectivePort.toNat]

/-- The host's word for a way to log in that takes credentials. -/
def Authentication.keyword? : Authentication → Option String
  | .none => Option.none
  | .oneWayChap => some "ONEWAYCHAP"
  | .mutualChap => some "MUTUALCHAP"

/-- The arguments that log in. -/
def loginArguments (authentication : Authentication) : Script :=
  match authentication.keyword? with
  | Option.none => []
  | some keyword =>
    [.code (" -AuthenticationType " ++ keyword ++ " -ChapUsername $Env:" ++ userVariable ++
      " -ChapSecret $Env:" ++ secretVariable)]

/-- The environment that logs in. -/
def loginEnvironment (login : Login UInt32) : Environment :=
  match login.authentication.keyword? with
  | Option.none => []
  | some _ => [(userVariable, login.username), (secretVariable, login.secret)]

/-! ## Plans -/

/-- Makes a portal known to the host. -/
def addPortal (portal : Portal UInt32) : Plan Unit := .checked (requireAddress portal) {
  script := [.code "New-IscsiTargetPortal "] ++ portalArguments portal ++ [.code " | Out-Null"]
  meaning := Output.nothing }

/-- The targets at a portal. -/
def discover (portal : Portal UInt32) : Plan (List String) := .checked (requireAddress portal) {
  script := [.code "Get-IscsiTargetPortal "] ++ portalArguments portal ++
    [.code (" | Get-IscsiTarget | Select-Object -ExpandProperty NodeAddress" ++
      " | ConvertTo-Json")]
  meaning := Output.list .string "Get-IscsiTarget" }

/-- The portals known to the host. -/
def listPortals (_ : Unit) : Plan (List (Portal UInt32)) := .ok {
  script := [.code ("Get-IscsiTargetPortal | Select-Object TargetPortalAddress," ++
    " TargetPortalPortNumber | ConvertTo-Json")]
  meaning := Output.list portalRow "Get-IscsiTargetPortal" }

/-- Makes the host forget a portal. -/
def removePortal (portal : Portal UInt32) : Plan Unit := .checked (requireAddress portal) {
  script := [.code "Get-IscsiTargetPortal "] ++ portalArguments portal ++
    [.code " | Remove-IscsiTargetPortal -Confirm:$false"]
  meaning := Output.nothing }

/-- Connects a target. -/
def connect (login : Login UInt32) : Plan Unit :=
  .checked (do requireTarget login.iqn; requireAddress login.portal) {
    script := [.code "Connect-IscsiTarget "] ++ portalArguments login.portal ++
      [.code " -NodeAddress ", .literal login.iqn,
        .code (" -IsPersistent $true -IsMultipathEnabled " ++ Script.truth login.isMultipath)] ++
      loginArguments login.authentication ++ [.code " | Out-Null"]
    environment := loginEnvironment login
    meaning := Output.nothing }

/-- Disconnects a target. -/
def disconnect (target : Target UInt32) : Plan Unit := .checked (requireTarget target.iqn) {
  script := [.code "Disconnect-IscsiTarget -NodeAddress ", .literal target.iqn,
    .code " -Confirm:$false"]
  meaning := Output.nothing }

/-- The disks behind a target, whose numbers are given as text. -/
def disks (target : Target UInt32) : Plan (List String) := .checked (requireTarget target.iqn) {
  script := [.code "Get-IscsiTarget -NodeAddress ", .literal target.iqn,
    .code (" | Get-IscsiSession | Get-Disk | Select-Object -ExpandProperty Number" ++
      " | ConvertTo-Json")]
  meaning output := (Output.list .u32 "Get-IscsiSession" output).map fun numbers =>
    numbers.map fun number => toString number.toNat }

/-- Changes the secret that targets log in with. -/
def setSecret (secret : String) : Plan Unit := .ok {
  script := [.code ("Set-IscsiChapSecret -ChapSecret $Env:" ++ secretVariable)]
  environment := [(secretVariable, secret)]
  meaning := Output.nothing }

end StorageGateway.Iscsi
