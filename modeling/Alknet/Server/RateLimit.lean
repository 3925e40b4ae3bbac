import Alknet.Code.Server.RateLimit
import Alknet.Lib.Run

/-!
# What the connection limiter counts

For each IP the limiter's count is the number of living handlers that it let in. That is an
invariant of the accept loop together with the drops, which may come at any time.
-/

open Alknet.Rust Alknet.Lib

namespace Alknet

/-! ## Counts -/

def ConnectionRateLimiter.count (limiter : ConnectionRateLimiter) (ip : IpAddr) : Nat :=
  (limiter.active.lookup ip).getD 0

/-- The handler was let in, and its peer has this IP. -/
def counted (ip : IpAddr) : HandlerKind × Connection → Bool
  | (_, connection) => connection.connection_allowed &&
      connection.remote_addr.any fun addr => addr.ip == ip

theorem count_on_connect (limiter : ConnectionRateLimiter) (ip ip' : IpAddr) :
    (limiter.on_connect ip).count ip' = limiter.count ip' + if ip = ip' then 1 else 0 := by
  unfold ConnectionRateLimiter.count ConnectionRateLimiter.on_connect
  by_cases h : ip = ip'
  · subst h
    simp [AList.lookup_insert]
  · simp [AList.lookup_insert_ne (Ne.symm h), h]

theorem count_on_disconnect (limiter : ConnectionRateLimiter) (ip ip' : IpAddr) :
    (limiter.on_disconnect ip).count ip' = limiter.count ip' - if ip = ip' then 1 else 0 := by
  unfold ConnectionRateLimiter.count ConnectionRateLimiter.on_disconnect
  cases hlookup : limiter.active.lookup ip with
  | none =>
    by_cases h : ip = ip'
    · subst h
      simp [hlookup]
    · simp [h]
  | some count =>
    by_cases h : ip = ip'
    · subst h
      by_cases hone : count > 1
      · simp [hone, hlookup, AList.lookup_insert]
      · have hzero : count - 1 = 0 := by omega
        simp [hone, hlookup, hzero]
    · have hne : ip' ≠ ip := Ne.symm h
      by_cases hone : count > 1
      · simp [hone, h, AList.lookup_insert_ne hne]
      · simp [hone, h, AList.lookup_erase_ne hne]

theorem on_connect_positive {limiter : ConnectionRateLimiter}
    (h : ∀ ip, limiter.active.lookup ip ≠ some 0) (ip ip' : IpAddr) :
    (limiter.on_connect ip).active.lookup ip' ≠ some 0 := by
  unfold ConnectionRateLimiter.on_connect
  by_cases heq : ip' = ip
  · subst heq
    simp [AList.lookup_insert]
  · rw [AList.lookup_insert_ne heq]
    exact h ip'

theorem on_disconnect_positive {limiter : ConnectionRateLimiter}
    (h : ∀ ip, limiter.active.lookup ip ≠ some 0) (ip ip' : IpAddr) :
    (limiter.on_disconnect ip).active.lookup ip' ≠ some 0 := by
  unfold ConnectionRateLimiter.on_disconnect
  split
  · exact h ip'
  · rename_i count hlookup
    by_cases heq : ip' = ip
    · subst heq
      split_ifs with hone
      · simp only [AList.lookup_insert, ne_eq, Option.some.injEq]
        omega
      · simp
    · split_ifs with hone
      · rw [AList.lookup_insert_ne heq]
        exact h ip'
      · rw [AList.lookup_erase_ne heq]
        exact h ip'

/-! ## One handler -/

variable {limiter : ConnectionRateLimiter} {connection : Connection} {kind : HandlerKind}

theorem count_count_in (kind : HandlerKind) (connection : Connection)
    (limiter : ConnectionRateLimiter) (ip : IpAddr) :
    (count_in connection limiter).count ip =
      limiter.count ip + if counted ip (kind, connection) then 1 else 0 := by
  rcases connection with ⟨_ | addr, _ | _⟩
  · simp [count_in, counted]
  · simp [count_in, counted]
  · simp [count_in, counted]
  · simp [count_in, counted, count_on_connect]

theorem count_count_out (kind : HandlerKind) (connection : Connection)
    (limiter : ConnectionRateLimiter) (ip : IpAddr) :
    (count_out connection limiter).count ip =
      limiter.count ip - if counted ip (kind, connection) then 1 else 0 := by
  rcases connection with ⟨_ | addr, _ | _⟩
  · simp [count_out, counted]
  · simp [count_out, counted]
  · simp [count_out, counted]
  · simp [count_out, counted, count_on_disconnect]

theorem count_in_max (connection : Connection) (limiter : ConnectionRateLimiter) :
    (count_in connection limiter).max_per_ip = limiter.max_per_ip := by
  rcases connection with ⟨_ | addr, _ | _⟩ <;> rfl

theorem count_out_max (connection : Connection) (limiter : ConnectionRateLimiter) :
    (count_out connection limiter).max_per_ip = limiter.max_per_ip := by
  rcases connection with ⟨_ | addr, _ | _⟩
  · rfl
  · rfl
  · rfl
  · simp only [count_out, ConnectionRateLimiter.on_disconnect]
    split
    · rfl
    · split_ifs <;> rfl

theorem count_in_positive (h : ∀ ip, limiter.active.lookup ip ≠ some 0) (connection : Connection)
    (ip : IpAddr) : (count_in connection limiter).active.lookup ip ≠ some 0 := by
  unfold count_in
  split
  · exact on_connect_positive h _ ip
  · exact h ip

theorem count_out_positive (h : ∀ ip, limiter.active.lookup ip ≠ some 0) (connection : Connection)
    (ip : IpAddr) : (count_out connection limiter).active.lookup ip ≠ some 0 := by
  unfold count_out
  split
  · exact on_disconnect_positive h _ ip
  · exact h ip

/-- A handler that is rejected, or has no address. -/
def Connection.Uncounted (connection : Connection) : Prop :=
  connection.connection_allowed = false ∨ connection.remote_addr = none

theorem count_in_uncounted (h : connection.Uncounted) : count_in connection limiter = limiter := by
  rcases connection with ⟨_ | addr, _ | _⟩ <;> simp_all [Connection.Uncounted, count_in]

theorem count_out_uncounted (h : connection.Uncounted) :
    count_out connection limiter = limiter := by
  rcases connection with ⟨_ | addr, _ | _⟩ <;> simp_all [Connection.Uncounted, count_out]

theorem hooks_eq (kind : HandlerKind) : kind.hooks = ⟨ask_limiter, count_in, count_out⟩ := by
  cases kind <;> rfl

/-! ## One step -/

theorem countP_eraseIdx {α : Type} (p : α → Bool) {l : List α} {i : Nat} {x : α}
    (h : l[i]? = some x) : l.countP p = (l.eraseIdx i).countP p + if p x then 1 else 0 := by
  induction l generalizing i with
  | nil => simp at h
  | cons y l ih =>
    cases i with
    | zero =>
      simp only [List.getElem?_cons_zero, Option.some.injEq] at h
      subst h
      rw [List.eraseIdx_cons_zero, List.countP_cons]
    | succ i =>
      simp only [List.getElem?_cons_succ] at h
      rw [List.eraseIdx_cons_succ, List.countP_cons, List.countP_cons, ih h]
      omega

/-- What a step did. -/
inductive Connections.Moves (s : Connections) : ConnectionStep → Connections → Prop where
  | check (kind : HandlerKind) (remote_addr : Option SocketAddr) (hidle : s.creating = none) :
    Moves s (.check kind remote_addr)
      { s with creating := some (kind, ask_limiter s.limiter remote_addr) }
  | connect {kind : HandlerKind} {connection : Connection}
    (hcreating : s.creating = some (kind, connection)) :
    Moves s .connect ⟨count_in connection s.limiter, none, s.live ++ [(kind, connection)]⟩
  | drop {i : Nat} {kind : HandlerKind} {connection : Connection}
    (hlive : s.live[i]? = some (kind, connection)) :
    Moves s (.drop i)
      { s with limiter := count_out connection s.limiter, live := s.live.eraseIdx i }

variable {s s' : Connections} {step : ConnectionStep}

theorem Connections.moves_of_step (h : s.step step = some s') : s.Moves step s' := by
  unfold Connections.step at h
  cases step with
  | check kind remote_addr =>
    simp only at h
    split at h
    · rename_i hidle
      obtain rfl := Option.some.inj h
      rw [hooks_eq]
      exact .check kind remote_addr hidle
    · simp at h
  | connect =>
    simp only at h
    split at h
    · simp at h
    · rename_i kind connection hcreating
      obtain rfl := Option.some.inj h
      rw [hooks_eq]
      exact .connect hcreating
  | drop i =>
    simp only at h
    split at h
    · simp at h
    · rename_i kind connection hlive
      obtain rfl := Option.some.inj h
      rw [hooks_eq]
      exact .drop hlive

/-- The counts are right, and a handler that was let in but is not counted yet still has room. -/
structure Connections.Counts (limit : Nat) (s : Connections) : Prop where
  max : s.limiter.max_per_ip = limit
  live : ∀ ip, s.limiter.count ip = s.live.countP (counted ip)
  positive : ∀ ip, s.limiter.active.lookup ip ≠ some 0
  bounded : 0 < limit → ∀ ip, s.limiter.count ip ≤ limit
  room : 0 < limit → ∀ entry, s.creating = some entry → ∀ ip, counted ip entry →
    s.limiter.count ip < limit

theorem counts_new (limit : Nat) : (Connections.new limit).Counts limit where
  max := rfl
  live := fun _ => rfl
  positive := by simp [Connections.new, ConnectionRateLimiter.new]
  bounded := fun _ _ => Nat.zero_le _
  room := by simp [Connections.new]

theorem counted_ask_limiter {ip : IpAddr} {remote_addr : Option SocketAddr}
    (h : counted ip (kind, ask_limiter limiter remote_addr)) : limiter.check ip = true := by
  cases remote_addr with
  | none => simp [ask_limiter, counted] at h
  | some addr =>
    simp only [ask_limiter, counted, Option.any_some, Bool.and_eq_true, beq_iff_eq] at h
    rw [← h.2]
    exact h.1

theorem check_iff (limiter : ConnectionRateLimiter) (ip : IpAddr) :
    limiter.check ip = true ↔ (0 < limiter.max_per_ip → limiter.count ip < limiter.max_per_ip) := by
  unfold ConnectionRateLimiter.check ConnectionRateLimiter.count
  split_ifs with h
  · simp [h]
  · simp [Nat.pos_of_ne_zero h]

theorem step_counts {limit : Nat} (hs : s.Counts limit) (h : s.step step = some s') :
    s'.Counts limit := by
  cases Connections.moves_of_step h with
  | check kind remote_addr hidle =>
    refine ⟨hs.max, hs.live, hs.positive, hs.bounded, fun hpos entry hentry ip hcounted => ?_⟩
    obtain rfl := Option.some.inj hentry
    have hcheck := (check_iff s.limiter ip).mp (counted_ask_limiter hcounted)
    rw [hs.max] at hcheck
    exact hcheck hpos
  | @connect kind connection hcreating =>
    refine ⟨?_, fun ip => ?_, count_in_positive hs.positive connection, fun hpos ip => ?_, ?_⟩
    · rw [count_in_max]
      exact hs.max
    · rw [count_count_in kind, hs.live, List.countP_append, List.countP_singleton]
    · rw [count_count_in kind]
      split_ifs with hcounted
      · exact hs.room hpos _ hcreating ip hcounted
      · exact hs.bounded hpos ip
    · simp
  | @drop i kind connection hlive =>
    have hcount : ∀ ip, (count_out connection s.limiter).count ip ≤ s.limiter.count ip := by
      intro ip
      rw [count_count_out kind]
      exact Nat.sub_le _ _
    refine ⟨?_, fun ip => ?_, count_out_positive hs.positive connection, fun hpos ip => ?_,
      fun hpos entry hentry ip hcounted => ?_⟩
    · rw [count_out_max]
      exact hs.max
    · rw [count_count_out kind, hs.live, countP_eraseIdx (counted ip) hlive, Nat.add_sub_cancel]
    · exact (hcount ip).trans (hs.bounded hpos ip)
    · exact (hcount ip).trans_lt (hs.room hpos entry hentry ip hcounted)

/-! ## Whole runs -/

theorem drops_creating {drops : List Nat} {entry : HandlerKind × Connection}
    (hs : s.creating = some entry) (h : run Connections.step s (drops.map .drop) = some s') :
    s'.creating = some entry := by
  induction drops generalizing s with
  | nil =>
    simp only [List.map_nil, run_nil, Option.some.injEq] at h
    exact h ▸ hs
  | cons i drops ih =>
    rw [List.map_cons, run_cons, Option.bind_eq_some_iff] at h
    obtain ⟨mid, hmid, hrest⟩ := h
    refine ih ?_ hrest
    cases Connections.moves_of_step hmid with
    | drop hlive => exact hs

theorem creation_handler {kind : HandlerKind} {remote_addr : Option SocketAddr} {drops : List Nat}
    (h : run Connections.step s (.check kind remote_addr :: drops.map .drop ++ [.connect]) =
      some s') :
    s'.live.getLast? = some (kind, ask_limiter s.limiter remote_addr) := by
  -- what is dropped meanwhile does not change what the check decided
  rw [List.cons_append, run_cons, Option.bind_eq_some_iff] at h
  obtain ⟨asked, hask, hrest⟩ := h
  rw [run_append, Option.bind_eq_some_iff] at hrest
  obtain ⟨mid, hmid, hconnect⟩ := hrest
  rw [run_cons, Option.bind_eq_some_iff] at hconnect
  obtain ⟨last, hlast, hdone⟩ := hconnect
  simp only [run_nil, Option.some.injEq] at hdone
  subst hdone
  have hcreating : mid.creating = some (kind, ask_limiter s.limiter remote_addr) := by
    refine drops_creating ?_ hmid
    cases Connections.moves_of_step hask with
    | check kind remote_addr hidle => rfl
  cases Connections.moves_of_step hlast with
  | connect hthis =>
    rw [hcreating] at hthis
    rw [← Option.some.inj hthis, List.getLast?_append]
    rfl

theorem ask_limiter_addr (limiter : ConnectionRateLimiter) (remote_addr : Option SocketAddr) :
    (ask_limiter limiter remote_addr).remote_addr = remote_addr := by
  cases remote_addr <;> rfl

theorem refused_iff {limit : Nat} (hs : s.Counts limit) (remote_addr : Option SocketAddr) :
    (ask_limiter s.limiter remote_addr).connection_allowed = false ↔
      ∃ addr, remote_addr = some addr ∧ 0 < limit ∧ s.live.countP (counted addr.ip) = limit := by
  cases remote_addr with
  | none => simp [ask_limiter]
  | some addr =>
    have hcheck := check_iff s.limiter addr.ip
    rw [hs.max, hs.live] at hcheck
    simp only [ask_limiter, Option.some.injEq, exists_eq_left']
    rw [← Bool.not_eq_true, hcheck, not_forall]
    constructor
    · rintro ⟨hpos, hfull⟩
      have hbound := hs.bounded hpos addr.ip
      rw [hs.live] at hbound
      exact ⟨hpos, by omega⟩
    · rintro ⟨hpos, hfull⟩
      exact ⟨hpos, by omega⟩

/-- The handler that the step creates or drops is rejected, or has no address. -/
def Connections.StepUncounted (s : Connections) : ConnectionStep → Prop
  | .check _ _ => True
  | .connect => ∀ kind connection, s.creating = some (kind, connection) → connection.Uncounted
  | .drop i => ∀ kind connection, s.live[i]? = some (kind, connection) → connection.Uncounted

theorem step_uncounted (hun : s.StepUncounted step) (h : s.step step = some s') :
    s'.limiter = s.limiter := by
  cases Connections.moves_of_step h with
  | check kind remote_addr hidle => rfl
  | connect hcreating => exact count_in_uncounted (hun _ _ hcreating)
  | drop hlive => exact count_out_uncounted (hun _ _ hlive)

/-- **Accounting.** After any creations and drops the limiter has the number of living handlers for
each IP. -/
theorem limiter_accounting (limit : Nat) (steps : List ConnectionStep) (s : Connections)
    (h : run Connections.step (Connections.new limit) steps = some s) :
    (∀ ip, s.limiter.count ip = s.live.countP (counted ip)) ∧
    (∀ ip, s.limiter.active.lookup ip ≠ some 0) ∧
    (0 < limit → ∀ ip, s.limiter.count ip ≤ limit) ∧
    (∀ kind remote_addr (drops : List Nat) s',
      run Connections.step s (.check kind remote_addr :: drops.map .drop ++ [.connect]) = some s' →
        ∃ connection, s'.live.getLast? = some (kind, connection) ∧
          connection.remote_addr = remote_addr ∧
          (connection.connection_allowed = false ↔
            ∃ addr, remote_addr = some addr ∧ 0 < limit ∧
              s.live.countP (counted addr.ip) = limit)) ∧
    (∀ step s', s.StepUncounted step → s.step step = some s' → s'.limiter = s.limiter) := by
  have hs : s.Counts limit := run_keeps (fun _ _ _ hs hstep => step_counts hs hstep)
    (counts_new limit) h
  refine ⟨hs.live, hs.positive, hs.bounded, fun kind remote_addr drops s' hrun => ?_,
    fun step s' hun hstep => step_uncounted hun hstep⟩
  exact ⟨_, creation_handler hrun, ask_limiter_addr s.limiter remote_addr,
    refused_iff hs remote_addr⟩

def localhost (port : UInt16) : SocketAddr := ⟨.V4 ⟨⟨[127, 0, 0, 1], rfl⟩⟩, port, 0⟩

theorem limiter_accounting_sample :
    ∃ s, run Connections.step (Connections.new 1)
        [.check .ServerHandler (some (localhost 1)), .connect,
          .check .SshHandler (some (localhost 2)), .connect, .drop 0] = some s ∧
      s.live = [(.SshHandler, ⟨some (localhost 2), false⟩)] ∧
      ∀ ip, s.limiter.count ip = s.live.countP (counted ip) :=
  ⟨_, rfl, rfl, (limiter_accounting 1 [.check .ServerHandler (some (localhost 1)), .connect,
    .check .SshHandler (some (localhost 2)), .connect, .drop 0] _ rfl).1⟩

end Alknet
