import StorageGateway.Proofs.Rpc.Connections
import StorageGateway.Rpc.Server

/-!
# Servers come to rest

A server at rest has nothing to do. When one of its connections has, only that connection does
anything, and the others stay as they are.
-/

namespace StorageGateway.Rpc.Server

variable {σ : Type} {server : Server σ} {index : Nat} {old new connection : Connection} {world : σ}

/-- There is nothing to do: the loop has not been told to end, or has ended, and all connections are
at rest. -/
structure AtRest (server : Server σ) : Prop where
  loop : server.endLoop = server
  connections : ∀ connection ∈ server.connections, connection.AtRest server.signal

@[simp] theorem endpoint_put : (server.put index old new).endpoint = server.endpoint := rfl

@[simp] theorem loop_put : (server.put index old new).loop = server.loop := rfl

@[simp] theorem asked_put : (server.put index old new).asked = server.asked := rfl

@[simp] theorem signal_put : (server.put index old new).signal = server.signal := rfl

@[simp] theorem connections_put :
    (server.put index old new).connections = server.connections.set index new := rfl

theorem endLoop_put (h : server.endLoop = server) :
    (server.put index old new).endLoop = server.put index old new := by
  unfold endLoop at h ⊢
  rw [loop_put, asked_put]
  cases hloop : server.loop with
  | accepting =>
    rw [hloop] at h
    cases hasked : server.asked with
    | true =>
      -- A loop that has been told to end would have ended.
      rw [hasked] at h
      have hsame := congrArg loop h
      rw [hloop] at hsame
      cases hsame
    | false => rfl
  | ended result => rfl

theorem put_self (h : server.connections[index]? = some connection) :
    server.put index connection connection = server := by
  obtain ⟨hindex, rfl⟩ := List.getElem?_eq_some_iff.mp h
  have hsame : server.connections.set index server.connections[index] = server.connections :=
    List.set_getElem_self hindex
  unfold put
  rw [hsame, Bool.and_not_self]
  rfl

/-! ## Settling -/

theorem settleConnections_append (server : Server σ) (first more : List Nat) (world : σ) :
    server.settleConnections (first ++ more) world =
      (server.settleConnections first world).1.settleConnections more
        (server.settleConnections first world).2 := by
  induction first generalizing server world with
  | nil => rfl
  | cons index first ih => exact ih _ _

theorem settleConnections_of_atRest {indices : List Nat}
    (h : ∀ index ∈ indices, ∀ connection, server.connections[index]? = some connection →
      connection.AtRest server.signal) :
    server.settleConnections indices world = (server, world) := by
  induction indices with
  | nil => rfl
  | cons index indices ih =>
    have hone : server.updateServed index (Connection.settle server.endpoint server.signal) world =
        (server, world) := by
      unfold updateServed
      cases hc : server.connections[index]? with
      | none => rfl
      | some connection =>
        dsimp only
        rw [Connection.settle_of_atRest (h index List.mem_cons_self connection hc)]
        dsimp only
        rw [put_self hc]
    unfold settleConnections
    rw [hone]
    exact ih fun other hother => h other (List.mem_cons_of_mem _ hother)

theorem settle_of_atRest (h : server.AtRest) : server.settle world = (server, world) := by
  unfold settle
  rw [h.loop]
  exact settleConnections_of_atRest fun index _ connection hc =>
    h.connections connection (List.mem_of_getElem? hc)

/-- Where all connections but one are at rest, that one does all there is to do. -/
theorem settle_of_others (world : σ) (hloop : server.endLoop = server)
    (hc : server.connections[index]? = some connection)
    (hothers : ∀ other c, other ≠ index → server.connections[other]? = some c →
      c.AtRest server.signal) :
    server.settle world =
      (server.put index connection (connection.settle server.endpoint server.signal world).1,
        (connection.settle server.endpoint server.signal world).2) := by
  obtain ⟨hindex, -⟩ := List.getElem?_eq_some_iff.mp hc
  obtain ⟨before, after, hrange⟩ := List.append_of_mem (List.mem_range.mpr hindex)
  have hnodup : (before ++ index :: after).Nodup := hrange ▸ List.nodup_range
  have hbefore : ∀ other ∈ before, other ≠ index := by
    rintro other hother rfl
    exact (List.nodup_append.mp hnodup).2.2 other hother other List.mem_cons_self rfl
  have hafter : ∀ other ∈ after, other ≠ index := by
    rintro other hother rfl
    exact (List.nodup_cons.mp (List.nodup_append.mp hnodup).2.1).1 hother
  have hfirst : server.settleConnections before world = (server, world) :=
    settleConnections_of_atRest fun other hother c => hothers other c (hbefore other hother)
  unfold settle
  rw [hloop, hrange, settleConnections_append, hfirst]
  have hone : server.updateServed index (Connection.settle server.endpoint server.signal) world =
      (server.put index connection (connection.settle server.endpoint server.signal world).1,
        (connection.settle server.endpoint server.signal world).2) := by
    unfold updateServed
    rw [hc]
    rfl
  unfold settleConnections
  dsimp only
  rw [hone]
  refine settleConnections_of_atRest fun other hother c hothere => ?_
  have hne := hafter other hother
  rw [connections_put, List.getElem?_set_ne (Ne.symm hne)] at hothere
  exact hothers other c hne hothere

/-! ## Servers that accept -/

/-- A server that accepts connections, that nobody has told to end, and that has nothing to do. -/
structure Ready (server : Server σ) : Prop where
  accepting : server.loop = .accepting
  unasked : server.asked = false
  untold : server.signal = {}
  connections : ∀ connection ∈ server.connections, connection.AtRest {}

theorem Ready.endLoop (h : server.Ready) : server.endLoop = server := by
  rw [Server.endLoop, h.accepting]
  simp [h.unasked]

theorem Ready.atRest (h : server.Ready) : server.AtRest :=
  ⟨h.endLoop, fun connection hc => h.untold ▸ h.connections connection hc⟩

theorem Ready.put (h : server.Ready) (hnew : new.AtRest {}) : (server.put index old new).Ready := by
  refine ⟨h.accepting, h.unasked, h.untold, fun connection hc => ?_⟩
  rw [connections_put] at hc
  rcases List.mem_or_eq_of_mem_set hc with hold | rfl
  · exact h.connections connection hold
  · exact hnew

/-- When a peer does something to a connection, that connection does what there is to do. -/
theorem Ready.settle_put (h : server.Ready) (hold : server.connections[index]? = some old)
    (new : Connection) (world : σ) :
    (server.put index old new).settle world =
      ((server.put index old new).put index new (new.settle server.endpoint {} world).1,
        (new.settle server.endpoint {} world).2) := by
  obtain ⟨hindex, -⟩ := List.getElem?_eq_some_iff.mp hold
  have hnew : (server.put index old new).connections[index]? = some new := by
    rw [connections_put, List.getElem?_set_self hindex]
  have hothers : ∀ other c, other ≠ index →
      (server.put index old new).connections[other]? = some c →
        c.AtRest (server.put index old new).signal := by
    intro other c hne hc
    rw [connections_put, List.getElem?_set_ne (Ne.symm hne)] at hc
    rw [signal_put, h.untold]
    exact h.connections c (List.mem_of_getElem? hc)
  have hsettle := settle_of_others world (endLoop_put h.endLoop) hnew hothers
  rw [endpoint_put, signal_put, h.untold] at hsettle
  exact hsettle

/-- A connection that is new at a server does what there is to do. -/
theorem Ready.settle_append (h : server.Ready) (slots : Nat) {first accepted : Connection}
    {world' : σ} (hfirst : first.settle server.endpoint {} world = (accepted, world'))
    (hrest : accepted.AtRest {}) :
    ∃ rested, ({ server with slots, connections := server.connections ++ [first] } :
        Server σ).settle world = (rested, world') ∧ rested.Ready ∧
      rested.endpoint = server.endpoint ∧ rested.address = server.address ∧
      rested.connections = server.connections ++ [accepted] := by
  obtain ⟨endpoint, address, loop, asked, signal, before, connections⟩ := server
  obtain ⟨rfl, rfl, rfl, hconnections⟩ := h
  have hlast : (connections ++ [first])[connections.length]? = some first :=
    List.getElem?_concat_length
  have hothers : ∀ other c, other ≠ connections.length → (connections ++ [first])[other]? = some c →
      c.AtRest {} := by
    intro other c hne hc
    obtain ⟨hlt, -⟩ := List.getElem?_eq_some_iff.mp hc
    rw [List.length_append, List.length_singleton] at hlt
    have hbefore : other < connections.length := by omega
    rw [List.getElem?_append_left hbefore] at hc
    exact hconnections c (List.mem_of_getElem? hc)
  have hsettle : (⟨endpoint, address, .accepting, false, {}, slots, connections ++ [first]⟩ :
      Server σ).settle world = _ := settle_of_others world rfl hlast hothers
  rw [hfirst] at hsettle
  have hset : (connections ++ [first]).set connections.length accepted =
      connections ++ [accepted] := by
    simp
  refine ⟨_, hsettle, ⟨rfl, rfl, rfl, fun c hc => ?_⟩, rfl, rfl, hset⟩
  rw [connections_put, hset] at hc
  rcases List.mem_append.mp hc with hold | hnew
  · exact hconnections c hold
  · rw [List.mem_singleton.mp hnew]
    exact hrest

/-- A peer that connects has an idle connection, unless too many are alive; nothing else happens. -/
theorem Ready.settle_connect (h : server.Ready) (world : σ) :
    ∃ rested accepted, server.connect.settle world = (rested, world) ∧ rested.Ready ∧
      rested.endpoint = server.endpoint ∧ rested.address = server.address ∧
      rested.connections = server.connections ++ [accepted] ∧
      (server.slots < greatestConnections →
        accepted.Idle ∧ accepted.heard = accepted.sent.length) := by
  by_cases hslots : server.slots < greatestConnections
  · have hidle : ({ phase := .waiting } : Connection).Idle := ⟨rfl, rfl, rfl, rfl⟩
    have hfirst : ({} : Connection).settle server.endpoint {} world =
        ({ phase := .waiting }, world) := by
      rw [Connection.settle_of_advance _ (Connection.advance_checking rfl)]
      · exact Connection.settle_of_atRest hidle.atRest
      · rintro (hended | ⟨hwaiting, -⟩)
        · cases hended
        · cases hwaiting
    have hconnect : server.connect =
        { server with slots := server.slots + 1, connections := server.connections ++ [{}] } := by
      rw [connect, h.accepting]
      exact if_pos hslots
    obtain ⟨rested, hsettle, hready, hendpoint, haddress, hconnections⟩ :=
      h.settle_append (server.slots + 1) hfirst hidle.atRest
    rw [hconnect]
    exact ⟨rested, _, hsettle, hready, hendpoint, haddress, hconnections, fun _ => ⟨hidle, rfl⟩⟩
  · have hclosed : (Connection.close {}).AtRest {} := .inl rfl
    have hconnect : server.connect =
        { server with
          slots := server.slots, connections := server.connections ++ [.close {}] } := by
      rw [connect, h.accepting]
      exact if_neg hslots
    obtain ⟨rested, hsettle, hready, hendpoint, haddress, hconnections⟩ :=
      h.settle_append server.slots (Connection.settle_of_atRest hclosed) hclosed
    rw [hconnect]
    exact ⟨rested, _, hsettle, hready, hendpoint, haddress, hconnections,
      fun hfree => absurd hfree hslots⟩

/-- Bytes arrive at a connection, which then does all there is to do; nothing else happens. -/
theorem Ready.settle_receive (h : server.Ready) (hc : server.connections[index]? = some connection)
    (bytes : Bytes) (world : σ) :
    ∃ rested, (server.update index (Connection.receive · bytes)).settle world =
        (rested, ((connection.receive bytes).settle server.endpoint {} world).2) ∧ rested.Ready ∧
      rested.endpoint = server.endpoint ∧ rested.address = server.address ∧
      rested.connections = server.connections.set index
        ((connection.receive bytes).settle server.endpoint {} world).1 := by
  have hsettle := h.settle_put hc (connection.receive bytes) world
  have hupdate : server.update index (Connection.receive · bytes) =
      server.put index connection (connection.receive bytes) := by
    rw [update, hc]
  rw [hupdate]
  refine ⟨_, hsettle, ?_, rfl, rfl, ?_⟩
  · refine ⟨h.accepting, h.unasked, h.untold, fun c hin => ?_⟩
    rw [connections_put, connections_put, List.set_set] at hin
    rcases List.mem_or_eq_of_mem_set hin with hold | rfl
    · exact h.connections c hold
    · exact Connection.atRest_settle _ _ _ _
  · rw [connections_put, connections_put, List.set_set]

/-- A peer reads what there is: nothing happens to the other connections. -/
theorem Ready.hear (h : server.Ready) (index : Nat) :
    (server.hear index).2.2.Ready ∧ (server.hear index).2.2.endpoint = server.endpoint ∧
      ∀ other, other ≠ index →
        (server.hear index).2.2.connections[other]? = server.connections[other]? := by
  unfold Server.hear
  cases hc : server.connections[index]? with
  | none => exact ⟨h, rfl, fun _ _ => rfl⟩
  | some connection =>
    dsimp only
    rw [update, hc]
    refine ⟨h.put (h.connections connection (List.mem_of_getElem? hc)).hear, rfl,
      fun other hother => ?_⟩
    rw [connections_put, List.getElem?_set_ne (Ne.symm hother)]

end StorageGateway.Rpc.Server
