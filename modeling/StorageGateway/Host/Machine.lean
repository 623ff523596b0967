import StorageGateway.Files.Tree
import StorageGateway.Host.Shell

/-!
# The host

What the gateway works on: the files of the host, the sockets that somebody listens on, and a shell
that runs scripts.
-/

namespace StorageGateway.Host

/-- The host. -/
structure Machine where
  /-- Its files. -/
  files : FileTree := {}
  /-- The numbers of the sockets that somebody listens on. -/
  listening : List Nat := []
  /-- The number of the next socket. -/
  nextSocket : Nat := 0
  /-- The shell that runs its scripts. -/
  shell : Shell

namespace Command

/-- Runs a command. -/
def run {α : Type} (command : Command α) : Act Machine α := fun machine =>
  let (output, shell) := machine.shell.run command.invocation
  (output.bind command.meaning, { machine with shell })

end Command

namespace Plan

/-- Carries out a plan. -/
def run {α : Type} (plan : Plan α) : Act Machine α :=
  match plan with
  | .error fault => Act.ofExcept (.error fault)
  | .ok command => command.run

/-- The route of an operation that is carried out by planning its requests. -/
def route {WireRequest Request Response WireResponse : Type}
    (operation : Operation WireRequest Request Response WireResponse)
    (requestSchema : Schema WireRequest) (responseSchema : Schema WireResponse)
    (plan : Request → Plan Response) : Route Machine where
  operation
  requestSchema
  writeResponse := responseSchema.writer
  invoke request _ := (plan request).run

end Plan

end StorageGateway.Host
