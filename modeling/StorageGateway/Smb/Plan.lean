import StorageGateway.Host.Machine
import StorageGateway.Smb.Model

/-!
# SMB operations on the host

Each operation on mappings comes down to one script over the host's SMB cmdlets. Credentials travel
in the environment.
-/

namespace StorageGateway.Smb

open Host

/-- The variable with the name to log in with. -/
def userVariable : String := "HOSTPROXY_SMB_USER"

/-- The variable with the password to log in with. -/
def passwordVariable : String := "HOSTPROXY_SMB_PASSWORD"

/-- Turns away a request that does not name a share. -/
def requireShare (remotePath : String) : Except Fault Unit :=
  if Text.isBlankText remotePath then .error (.invalidArgument "remote_path must not be empty")
  else .ok ()

/-- The end of a script that makes a link to a share. -/
def linkScript (mapping : NewMapping) : Script :=
  if mapping.localPath.isEmpty then []
  else [.code "; New-Item -ItemType SymbolicLink -Path ", .literal mapping.localPath,
    .code " -Target ", .literal mapping.remotePath, .code " | Out-Null"]

/-- Maps a share. -/
def map (mapping : NewMapping) : Plan Unit := .checked (requireShare mapping.remotePath) {
  script :=
    [.code ("$secret = ConvertTo-SecureString -String $Env:" ++ passwordVariable ++
        " -AsPlainText -Force; "),
      .code ("$credential = New-Object System.Management.Automation.PSCredential" ++
        " -ArgumentList $Env:" ++ userVariable ++ ", $secret; "),
      .code "New-SmbGlobalMapping -RemotePath ", .literal mapping.remotePath,
      .code " -Credential $credential -RequirePrivacy $true | Out-Null"] ++
    linkScript mapping
  environment := [(userVariable, mapping.username), (passwordVariable, mapping.password)]
  meaning := Output.nothing }

/-- Drops a mapping. -/
def unmap (remotePath : String) : Plan Unit := .ok {
  script := [.code "Remove-SmbGlobalMapping -RemotePath ", .literal remotePath, .code " -Force"]
  meaning := Output.nothing }

end StorageGateway.Smb
