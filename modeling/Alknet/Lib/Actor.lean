import Alknet.Lib.Run
import Mathlib.Data.List.Perm.Basic
import Mathlib.Data.List.Range

/-!
# Actors

An actor takes requests out of a queue, one after the other, and calls an object that it shares with
others. It hands each result to a task that sends it back, and these tasks end in any order. What
the clients see is then what one sequence of calls on the object gives: the actor's calls stand in
it in the order of their requests, each answer is the result of its own call, and no request is
answered twice or forgotten. A call that panics ends the actor, and with it all that waits.
-/

namespace Alknet.Lib

variable {σ κ μ ρ δ : Type}

/-- Requests are numbered as they are sent. `log` has the calls on the object in their order, those
of the actor with the number of their request. -/
structure Actor (σ κ μ ρ : Type) where
  object : σ
  sent : List μ
  queue : List (Nat × μ)
  connected : Bool
  running : Bool
  replies : List (Nat × ρ)
  answered : List (Nat × ρ)
  dropped : List Nat
  log : List (Option Nat × κ)

inductive ActorStep (κ μ δ : Type) where
  | send (request : μ)
  /-- The last client goes. -/
  | hang_up
  | handle (drawn : δ)
  /-- A task sends its result back. -/
  | reply (index : Nat)
  /-- Someone else calls the object. -/
  | call (call : κ)

namespace Actor

def new (object : σ) : Actor σ κ μ ρ where
  object := object
  sent := []
  queue := []
  connected := true
  running := true
  replies := []
  answered := []
  dropped := []
  log := []

/-- `serve` is a call on the object, with no result if it panics. `ask` is the call that a request
asks for, which may depend on something drawn at that time. -/
def step (capacity : Nat) (serve : σ → κ → Option ρ × σ) (ask : μ → δ → κ) (a : Actor σ κ μ ρ) :
    ActorStep κ μ δ → Option (Actor σ κ μ ρ)
  | .send request =>
    if a.running ∧ a.connected ∧ a.queue.length < capacity then
      some { a with sent := a.sent ++ [request], queue := a.queue ++ [(a.sent.length, request)] }
    else none
  | .hang_up => some { a with connected := false }
  | .handle drawn =>
    if a.running then
      match a.queue with
      | [] => if a.connected then none else some { a with running := false }
      | (number, request) :: queue =>
        let call := ask request drawn
        match serve a.object call with
        | (some result, object) =>
          some { a with
            object := object
            queue := queue
            replies := a.replies ++ [(number, result)]
            log := a.log ++ [(some number, call)] }
        | (none, object) =>
          some { a with
            object := object
            queue := []
            running := false
            dropped := a.dropped ++ number :: queue.map Prod.fst
            log := a.log ++ [(some number, call)] }
    else none
  | .reply index =>
    match a.replies[index]? with
    | some reply =>
      some { a with replies := a.replies.eraseIdx index, answered := a.answered ++ [reply] }
    | none => none
  | .call call =>
    some { a with object := (serve a.object call).2, log := a.log ++ [(none, call)] }

/-! ## The sequence of calls -/

/-- The object after some calls. -/
def replay (serve : σ → κ → Option ρ × σ) (object : σ) (calls : List κ) : σ :=
  calls.foldl (fun object call => (serve object call).2) object

theorem replay_snoc (serve : σ → κ → Option ρ × σ) (object : σ) (calls : List κ) (call : κ) :
    replay serve object (calls ++ [call]) = (serve (replay serve object calls) call).2 := by
  unfold replay
  rw [List.foldl_append]
  rfl

/-- The result is that of the request's own call, at its place in the log. -/
def Gives (serve : σ → κ → Option ρ × σ) (object : σ) (log : List (Option Nat × κ))
    (reply : Nat × ρ) : Prop :=
  ∃ before call after, log = before ++ (some reply.1, call) :: after ∧
    (serve (replay serve object (before.map Prod.snd)) call).1 = some reply.2

theorem Gives.snoc {serve : σ → κ → Option ρ × σ} {object : σ} {log : List (Option Nat × κ)}
    {reply : Nat × ρ} (h : Gives serve object log reply) (entry : Option Nat × κ) :
    Gives serve object (log ++ [entry]) reply := by
  obtain ⟨before, call, after, rfl, hresult⟩ := h
  exact ⟨before, call, after ++ [entry], by simp, hresult⟩

def handled (a : Actor σ κ μ ρ) : List Nat := a.log.filterMap Prod.fst

/-- Where the requests are, by their numbers. -/
def places (a : Actor σ κ μ ρ) : List Nat :=
  a.answered.map Prod.fst ++ a.replies.map Prod.fst ++ a.queue.map Prod.fst ++ a.dropped

/-- What the clients and the others see is what the calls of the log give, one after the other. -/
structure Linear (serve : σ → κ → Option ρ × σ) (ask : μ → δ → κ) (object : σ)
    (a : Actor σ κ μ ρ) : Prop where
  replayed : a.object = replay serve object (a.log.map Prod.snd)
  order : a.running = true → a.handled ++ a.queue.map Prod.fst = List.range a.sent.length
  handled : a.handled <+: List.range a.sent.length
  queue : ∀ entry ∈ a.queue, a.sent[entry.1]? = some entry.2
  asked : ∀ number call, (some number, call) ∈ a.log →
    ∃ request drawn, a.sent[number]? = some request ∧ call = ask request drawn
  results : ∀ reply ∈ a.answered ++ a.replies, Gives serve object a.log reply
  places : a.places.Perm (List.range a.sent.length)
  dropped : a.running = true → a.dropped = []
  stopped : a.running = false → a.queue = []

section

variable {capacity : Nat} {serve : σ → κ → Option ρ × σ} {ask : μ → δ → κ} {object : σ}
  {a a' : Actor σ κ μ ρ}

theorem linear_new (object : σ) : Linear serve ask object (new object : Actor σ κ μ ρ) where
  replayed := rfl
  order := fun _ => rfl
  handled := List.prefix_rfl
  queue := nofun
  asked := nofun
  results := nofun
  places := List.Perm.refl _
  dropped := fun _ => rfl
  stopped := fun _ => rfl

theorem Linear.send (h : Linear serve ask object a) (hrunning : a.running = true) (request : μ) :
    Linear serve ask object { a with
      sent := a.sent ++ [request], queue := a.queue ++ [(a.sent.length, request)] } := by
  have hrange : List.range (a.sent ++ [request]).length =
      List.range a.sent.length ++ [a.sent.length] := by
    rw [List.length_append, List.length_singleton, List.range_succ]
  have hsent : ∀ {number : Nat} {request' : μ}, a.sent[number]? = some request' →
      (a.sent ++ [request])[number]? = some request' := by
    intro number request' hget
    rw [List.getElem?_append_left (List.getElem?_eq_some_iff.mp hget).1]
    exact hget
  refine ⟨h.replayed, fun _ => ?_, ?_, fun entry hentry => ?_, fun number call hmem => ?_,
    h.results, ?_, fun _ => h.dropped hrunning, fun hstopped => ?_⟩
  · rw [hrange, ← h.order hrunning, List.map_append, List.append_assoc]
    rfl
  · rw [hrange]
    exact h.handled.trans (List.prefix_append ..)
  · rcases List.mem_append.mp hentry with hold | hnew
    · exact hsent (h.queue entry hold)
    · obtain rfl := List.mem_singleton.mp hnew
      exact List.getElem?_concat_length
  · obtain ⟨request', drawn, hget, hcall⟩ := h.asked number call hmem
    exact ⟨request', drawn, hsent hget, hcall⟩
  · have hplaces := h.places
    unfold Actor.places at hplaces ⊢
    rw [hrange]
    simp only [h.dropped hrunning, List.append_nil, List.map_append] at hplaces ⊢
    rw [← List.append_assoc]
    exact hplaces.append_right _
  · exact absurd (hrunning.symm.trans hstopped) nofun

theorem Linear.call (h : Linear serve ask object a) (call : κ) :
    Linear serve ask object
      { a with object := (serve a.object call).2, log := a.log ++ [(none, call)] } := by
  have hhandled : (a.log ++ [(none, call)]).filterMap Prod.fst = a.handled := by
    rw [List.filterMap_append]
    exact List.append_nil _
  refine ⟨?_, fun hrunning => ?_, ?_, h.queue, fun number call' hmem => ?_,
    fun reply hreply => (h.results reply hreply).snoc _, h.places, h.dropped, h.stopped⟩
  · rw [List.map_append, List.map_singleton, replay_snoc, ← h.replayed]
  · unfold Actor.handled
    rw [hhandled]
    exact h.order hrunning
  · unfold Actor.handled
    rw [hhandled]
    exact h.handled
  · rcases List.mem_append.mp hmem with hold | hnew
    · exact h.asked number call' hold
    · cases List.mem_singleton.mp hnew

theorem Linear.reply (h : Linear serve ask object a) {index : Nat} {reply : Nat × ρ}
    (hreply : a.replies[index]? = some reply) :
    Linear serve ask object
      { a with replies := a.replies.eraseIdx index, answered := a.answered ++ [reply] } := by
  obtain ⟨hlt, rfl⟩ := List.getElem?_eq_some_iff.mp hreply
  have hperm : (a.answered ++ [a.replies[index]] ++ a.replies.eraseIdx index).Perm
      (a.answered ++ a.replies) := by
    rw [List.append_assoc]
    exact List.Perm.append_left _ (List.getElem_cons_eraseIdx_perm hlt)
  refine ⟨h.replayed, h.order, h.handled, h.queue, h.asked, fun reply hmem => ?_, ?_, h.dropped,
    h.stopped⟩
  · exact h.results reply (hperm.mem_iff.mp hmem)
  · refine List.Perm.trans ?_ h.places
    unfold Actor.places
    rw [← List.map_append, ← List.map_append]
    exact ((hperm.map Prod.fst).append_right _).append_right _

theorem Linear.handle_log (h : Linear serve ask object a) (hrunning : a.running = true)
    {number : Nat} {request : μ} {queue : List (Nat × μ)}
    (hqueue : a.queue = (number, request) :: queue) (drawn : δ) :
    (serve a.object (ask request drawn)).2 =
        replay serve object ((a.log ++ [(some number, ask request drawn)]).map Prod.snd) ∧
      (a.log ++ [(some number, ask request drawn)]).filterMap Prod.fst ++ queue.map Prod.fst =
        List.range a.sent.length ∧
      (∀ number' call, (some number', call) ∈ a.log ++ [(some number, ask request drawn)] →
        ∃ request drawn, a.sent[number']? = some request ∧ call = ask request drawn) := by
  refine ⟨?_, ?_, fun number' call hmem => ?_⟩
  · rw [List.map_append, List.map_singleton, replay_snoc, ← h.replayed]
  · rw [← h.order hrunning, hqueue, List.filterMap_append, List.append_assoc]
    rfl
  · rcases List.mem_append.mp hmem with hold | hnew
    · exact h.asked number' call hold
    · cases List.mem_singleton.mp hnew
      exact ⟨request, drawn, h.queue _ (hqueue ▸ List.mem_cons_self), rfl⟩

theorem Linear.handle_ok (h : Linear serve ask object a) (hrunning : a.running = true)
    {number : Nat} {request : μ} {queue : List (Nat × μ)}
    (hqueue : a.queue = (number, request) :: queue) {drawn : δ} {result : ρ} {object' : σ}
    (hserve : serve a.object (ask request drawn) = (some result, object')) :
    Linear serve ask object { a with
      object := object'
      queue := queue
      replies := a.replies ++ [(number, result)]
      log := a.log ++ [(some number, ask request drawn)] } := by
  obtain ⟨hobject, horder, hasked⟩ := h.handle_log hrunning hqueue drawn
  refine ⟨?_, fun _ => horder, ?_, fun entry hentry => ?_, hasked, fun reply hmem => ?_, ?_,
    h.dropped, fun hstopped => ?_⟩
  · rw [← hobject, hserve]
  · rw [← horder]
    exact List.prefix_append ..
  · exact h.queue entry (hqueue ▸ List.mem_cons_of_mem _ hentry)
  · rw [← List.append_assoc] at hmem
    rcases List.mem_append.mp hmem with hold | hnew
    · exact (h.results reply hold).snoc _
    · obtain rfl := List.mem_singleton.mp hnew
      exact ⟨a.log, ask request drawn, [], rfl, by rw [← h.replayed, hserve]⟩
  · refine List.Perm.trans ?_ h.places
    unfold Actor.places
    rw [hqueue, List.map_append, List.map_cons]
    simp
  · exact absurd (hrunning.symm.trans hstopped) nofun

theorem Linear.handle_panic (h : Linear serve ask object a) (hrunning : a.running = true)
    {number : Nat} {request : μ} {queue : List (Nat × μ)}
    (hqueue : a.queue = (number, request) :: queue) {drawn : δ} {object' : σ}
    (hserve : serve a.object (ask request drawn) = (none, object')) :
    Linear serve ask object { a with
      object := object'
      queue := []
      running := false
      dropped := a.dropped ++ number :: queue.map Prod.fst
      log := a.log ++ [(some number, ask request drawn)] } := by
  obtain ⟨hobject, horder, hasked⟩ := h.handle_log hrunning hqueue drawn
  refine ⟨?_, nofun, ?_, nofun, hasked, fun reply hmem => (h.results reply hmem).snoc _, ?_, nofun,
    fun _ => rfl⟩
  · rw [← hobject, hserve]
  · rw [← horder]
    exact List.prefix_append ..
  · refine List.Perm.trans ?_ h.places
    unfold Actor.places
    rw [hqueue, h.dropped hrunning]
    simp

theorem Linear.step {i : ActorStep κ μ δ} (h : Linear serve ask object a)
    (hstep : a.step capacity serve ask i = some a') : Linear serve ask object a' := by
  cases i with
  | send request =>
    simp only [Actor.step] at hstep
    split at hstep
    · rename_i hroom
      cases hstep
      exact h.send hroom.1 request
    · cases hstep
  | hang_up =>
    cases hstep
    exact ⟨h.replayed, h.order, h.handled, h.queue, h.asked, h.results, h.places, h.dropped,
      h.stopped⟩
  | handle drawn =>
    simp only [Actor.step] at hstep
    split at hstep
    · rename_i hrunning
      split at hstep
      · rename_i hqueue
        split at hstep
        · cases hstep
        · cases hstep
          exact ⟨h.replayed, nofun, h.handled, h.queue, h.asked, h.results, h.places, nofun,
            fun _ => hqueue⟩
      · rename_i number request queue hqueue
        split at hstep
        · rename_i result object' hserve
          cases hstep
          exact h.handle_ok hrunning hqueue hserve
        · rename_i object' hserve
          cases hstep
          exact h.handle_panic hrunning hqueue hserve
    · cases hstep
  | reply index =>
    simp only [Actor.step] at hstep
    split at hstep
    · rename_i reply hreply
      cases hstep
      exact h.reply hreply
    · cases hstep
  | call call =>
    cases hstep
    exact h.call call

theorem linear_run {steps : List (ActorStep κ μ δ)}
    (hrun : run (step capacity serve ask) (new object) steps = some a) :
    Linear serve ask object a :=
  run_keeps (fun _ _ _ h hstep => h.step hstep) (linear_new object) hrun

theorem step_object {i : ActorStep κ μ δ} (hstep : a.step capacity serve ask i = some a') :
    a'.object = a.object ∨ ∃ call, a'.object = (serve a.object call).2 := by
  cases i with
  | send request =>
    simp only [Actor.step] at hstep
    split at hstep
    · cases hstep
      exact .inl rfl
    · cases hstep
  | hang_up =>
    cases hstep
    exact .inl rfl
  | handle drawn =>
    simp only [Actor.step] at hstep
    split at hstep
    · split at hstep
      · split at hstep
        · cases hstep
        · cases hstep
          exact .inl rfl
      · rename_i number request queue hqueue
        split at hstep
        · rename_i result object' hserve
          cases hstep
          exact .inr ⟨ask request drawn, by rw [hserve]⟩
        · rename_i object' hserve
          cases hstep
          exact .inr ⟨ask request drawn, by rw [hserve]⟩
    · cases hstep
  | reply index =>
    simp only [Actor.step] at hstep
    split at hstep
    · cases hstep
      exact .inl rfl
    · cases hstep
  | call call =>
    cases hstep
    exact .inr ⟨call, rfl⟩

theorem object_run (Inv : σ → Prop) (hserve : ∀ object call, Inv object → Inv (serve object call).2)
    {steps : List (ActorStep κ μ δ)} (h : Inv a.object)
    (hrun : run (step capacity serve ask) a steps = some a') : Inv a'.object := by
  have hkeeps : ∀ (b : Actor σ κ μ ρ) i b', Inv b.object →
      step capacity serve ask b i = some b' → Inv b'.object := by
    intro b i b' hb hstep
    rcases step_object hstep with heq | ⟨call, heq⟩
    · exact heq ▸ hb
    · exact heq ▸ hserve b.object call hb
  exact run_keeps hkeeps h hrun

/-! ## The end of the actor -/

theorem handle_next {number : Nat} {request : μ} {queue : List (Nat × μ)} {drawn : δ}
    (hrunning : a.running = true) (hqueue : a.queue = (number, request) :: queue)
    (hstep : a.step capacity serve ask (.handle drawn) = some a') :
    a'.object = (serve a.object (ask request drawn)).2 ∧
      a'.running = (serve a.object (ask request drawn)).1.isSome ∧
      (a'.running = false → a'.sent = a.sent ∧ a'.answered = a.answered ∧
        a'.replies = a.replies) := by
  simp only [step, hrunning, hqueue, if_true] at hstep
  split at hstep
  · rename_i result object hserve
    cases hstep
    rw [hserve]
    exact ⟨rfl, rfl, nofun⟩
  · rename_i object hserve
    cases hstep
    rw [hserve]
    exact ⟨rfl, rfl, fun _ => ⟨rfl, rfl, rfl⟩⟩

theorem stopped_run {steps : List (ActorStep κ μ δ)} (hstopped : a.running = false)
    (hrun : run (step capacity serve ask) a steps = some a') :
    a'.running = false ∧ a'.sent = a.sent ∧ a'.dropped = a.dropped ∧
      (a'.answered ++ a'.replies).Perm (a.answered ++ a.replies) := by
  refine @run_keeps _ _ _ (fun b => b.running = false ∧ b.sent = a.sent ∧ b.dropped = a.dropped ∧
    (b.answered ++ b.replies).Perm (a.answered ++ a.replies)) (fun b i b' h hstep => ?_) _ _ _
    ⟨hstopped, rfl, rfl, List.Perm.refl _⟩ hrun
  cases i with
  | send request => simp [step, h.1] at hstep
  | hang_up =>
    cases hstep
    exact h
  | handle drawn => simp [step, h.1] at hstep
  | reply index =>
    simp only [step] at hstep
    split at hstep
    · rename_i reply hreply
      cases hstep
      obtain ⟨hlt, rfl⟩ := List.getElem?_eq_some_iff.mp hreply
      refine ⟨h.1, h.2.1, h.2.2.1, List.Perm.trans ?_ h.2.2.2⟩
      rw [List.append_assoc]
      exact List.Perm.append_left _ (List.getElem_cons_eraseIdx_perm hlt)
    · cases hstep
  | call call =>
    cases hstep
    exact h

end

end Actor

end Alknet.Lib
