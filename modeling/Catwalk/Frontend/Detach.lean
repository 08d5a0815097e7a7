import Catwalk.Frontend.Tokens
import Catwalk.Jobs.Detached

/-! Clients that leave, and the jobs they leave behind. -/

namespace Catwalk.Frontend

open Catwalk.Jobs (Status Known Ended Detached)
open Catwalk.Api (JobKey)

variable {Result : Type}

/-- What the server knows of a load. -/
structure Load.Attached (manager : Jobs.State JobKey Result) (load : Load) :
    Prop where
  unasked : load.place = .requested .sent → load.client = none
  known : ∀ jobId watcher, load.client = some (jobId, watcher) →
    Known manager jobId
  ended : ∀ jobId watcher, load.client = some (jobId, watcher) →
    load.Ended → Jobs.Ended manager jobId
  answered : ∀ jobId status,
    load.place = .polling jobId (.answered (some status)) → status.Terminal →
    Jobs.Ended manager jobId

/-- The watchers of a job are clients of loads, and a DELETE that the server
has handled let its watcher go. -/
structure Attached (state : State Result) : Prop where
  listed : Jobs.Listed state.manager
  inFlight : ∀ detach ∈ state.inFlight, detach ∈ state.deletes
  delivered : ∀ detach ∈ state.delivered, detach ∈ state.deletes
  detached : ∀ jobId watcher, ⟨jobId, some watcher⟩ ∈ state.delivered →
    Detached state.manager jobId watcher
  loads : ∀ (id : Nat) (load : Load), state.loads[id]? = some load →
    load.Attached state.manager
  watched : ∀ jobId job watcher, state.manager.heap jobId = some job →
    job.status.Active → watcher ∈ job.watchers →
    ∃ (id : Nat) (load : Load), state.loads[id]? = some load ∧
      load.client = some (jobId, watcher)

/-- What a step of the manager keeps, and whom it lets in. -/
structure Hosted (manager after : Jobs.State JobKey Result)
    (granted : Option (Nat × Nat)) : Prop where
  listed : Jobs.Listed after
  known : ∀ jobId, Known manager jobId → Known after jobId
  ended : ∀ jobId, Ended manager jobId → Ended after jobId
  detached : ∀ jobId watcher, Known manager jobId →
    watcher < manager.nextWatcher → Detached manager jobId watcher →
    Detached after jobId watcher
  watching : ∀ jobId job watcher, after.heap jobId = some job →
    job.status.Active → watcher ∈ job.watchers →
    (∃ job, manager.heap jobId = some job ∧ job.status.Active ∧
      watcher ∈ job.watchers) ∨ granted = some (jobId, watcher)

theorem Hosted.refl {manager : Jobs.State JobKey Result}
    (listed : Jobs.Listed manager) : Hosted manager manager none where
  listed := listed
  known := fun _ known => known
  ended := fun _ ended => ended
  detached := fun _ _ _ _ detached => detached
  watching := fun _ job _ found active member => .inl ⟨job, found, active, member⟩

theorem Hosted.step {cfg : Jobs.Config} {manager after : Jobs.State JobKey Result}
    {label : Jobs.Label JobKey Result} {granted : Option (Nat × Nat)}
    (listed : Jobs.Listed manager)
    (stepped : Jobs.step cfg manager label = some after)
    (grants : ∀ key fails jobId watcher, label = .submit key fails →
      (manager.submit cfg key fails).1 = .returned jobId watcher →
      granted = some (jobId, watcher)) : Hosted manager after granted where
  listed := listed.step stepped
  known := fun _ known => known.step listed.toRuled stepped
  ended := fun _ ended => ended.step listed.toRuled stepped
  detached := fun _ _ known issued detached =>
    detached.step listed.toRuled known issued stepped
  watching := by
    intro jobId job watcher found active member
    rcases listed.toRuled.watching stepped found active member with
      before | ⟨_, key, fails, submits, returned⟩
    · exact .inl before
    · exact .inr (grants key fails jobId watcher submits returned)

variable {cfg : Jobs.Config} {state after : State Result} {id : Nat}
  {load new : Load} {manager : Jobs.State JobKey Result}
  {granted : Option (Nat × Nat)}

theorem Load.Attached.mono (attached : load.Attached state.manager)
    (hosted : Hosted state.manager manager granted) : load.Attached manager where
  unasked := attached.unasked
  known := fun jobId watcher client =>
    hosted.known jobId (attached.known jobId watcher client)
  ended := fun jobId watcher client ended =>
    hosted.ended jobId (attached.ended jobId watcher client ended)
  answered := fun jobId status place terminal =>
    hosted.ended jobId (attached.answered jobId status place terminal)

theorem Attached.issued (attached : Attached state) (sound : Sound state)
    {jobId watcher : Nat} (sent : ⟨jobId, some watcher⟩ ∈ state.deletes) :
    Known state.manager jobId ∧ watcher < state.manager.nextWatcher := by
  obtain ⟨id, load, job, token, found, received, same⟩ := sound.sent _ sent
  cases same
  have client := sound.receiver found received
  exact ⟨(attached.loads id load found).known jobId watcher client,
    sound.issued id load jobId watcher found client⟩

/-- The rule for all steps: what the manager, the DELETEs and the loads each
have to keep. -/
theorem Attached.advance (attached : Attached state) (sound : Sound state)
    (hosted : Hosted state.manager after.manager granted)
    (inFlight : ∀ detach ∈ after.inFlight, detach ∈ after.deletes)
    (deletes : ∀ detach ∈ state.deletes, detach ∈ after.deletes)
    (delivered : ∀ detach ∈ after.delivered, detach ∈ state.delivered ∨
      detach ∈ state.inFlight ∧ ∀ jobId watcher,
        detach = ⟨jobId, some watcher⟩ → Detached after.manager jobId watcher)
    (loads : ∀ (id : Nat) (load : Load), after.loads[id]? = some load →
      load.Attached after.manager)
    (clients : ∀ (id : Nat) (load : Load) (jobId watcher : Nat),
      state.loads[id]? = some load → load.client = some (jobId, watcher) →
      Ended after.manager jobId ∨ ∃ (id : Nat) (load : Load),
        after.loads[id]? = some load ∧ load.client = some (jobId, watcher))
    (grants : ∀ jobId watcher, granted = some (jobId, watcher) →
      ∃ (id : Nat) (load : Load), after.loads[id]? = some load ∧
        load.client = some (jobId, watcher)) : Attached after where
  listed := hosted.listed
  inFlight := inFlight
  delivered := by
    intro detach member
    apply deletes
    rcases delivered detach member with before | ⟨sent, _⟩
    · exact attached.delivered detach before
    · exact attached.inFlight detach sent
  detached := by
    intro jobId watcher member
    rcases delivered _ member with before | ⟨_, now⟩
    · obtain ⟨known, issued⟩ :=
        attached.issued sound (attached.delivered _ before)
      exact hosted.detached jobId watcher known issued
        (attached.detached jobId watcher before)
    · exact now jobId watcher rfl
  loads := loads
  watched := by
    intro jobId job watcher found active member
    rcases hosted.watching jobId job watcher found active member with
      ⟨before, found', active', member'⟩ | grant
    · obtain ⟨id, load, stored, client⟩ :=
        attached.watched jobId before watcher found' active' member'
      rcases clients id load jobId watcher stored client with ended | kept
      · exact absurd active (ended.not_active found)
      · exact kept
    · exact grants jobId watcher grant

theorem Attached.framed (attached : Attached state) (sound : Sound state)
    (hosted : Hosted state.manager after.manager none)
    (same : after.loads = state.loads)
    (inFlight : ∀ detach ∈ after.inFlight, detach ∈ after.deletes)
    (deletes : ∀ detach ∈ state.deletes, detach ∈ after.deletes)
    (delivered : ∀ detach ∈ after.delivered, detach ∈ state.delivered ∨
      detach ∈ state.inFlight ∧ ∀ jobId watcher,
        detach = ⟨jobId, some watcher⟩ → Detached after.manager jobId watcher) :
    Attached after := by
  apply attached.advance sound hosted inFlight deletes delivered
  · intro id load found
    rw [same] at found
    exact (attached.loads id load found).mono hosted
  · intro id load jobId watcher found client
    rw [same]
    exact .inr ⟨id, load, found, client⟩
  · intro jobId watcher grant
    cases grant

/-- One load changes, and gives its client up only at the end of the job. -/
theorem Attached.turned (attached : Attached state) (sound : Sound state)
    (found : state.loads[id]? = some load)
    (loads : after.loads = state.loads.set id new)
    (hosted : Hosted state.manager after.manager granted)
    (isAttached : new.Attached after.manager)
    (client : new.client = load.client ∨
      ∀ jobId watcher, load.client = some (jobId, watcher) →
        Ended after.manager jobId)
    (grants : ∀ pair, granted = some pair → new.client = some pair)
    (inFlight : ∀ detach ∈ after.inFlight, detach ∈ after.deletes)
    (deletes : ∀ detach ∈ state.deletes, detach ∈ after.deletes)
    (delivered : after.delivered = state.delivered) : Attached after := by
  have self : after.loads[id]? = some new := by
    rw [loads_set found loads, if_pos rfl]
  apply attached.advance sound hosted inFlight deletes
  · intro detach member
    rw [delivered] at member
    exact .inl member
  · intro other second found'
    rw [loads_set found loads] at found'
    split at found'
    · cases found'
      exact isAttached
    · exact (attached.loads other second found').mono hosted
  · intro other second jobId watcher found' client'
    by_cases same : other = id
    · subst same
      cases found.symm.trans found'
      rcases client with same | ended
      · exact .inr ⟨other, new, self, same.trans client'⟩
      · exact .inl (ended jobId watcher client')
    · refine .inr ⟨other, second, ?_, client'⟩
      rw [loads_set found loads, if_neg same]
      exact found'
  · intro jobId watcher grant
    exact ⟨id, new, self, grants (jobId, watcher) grant⟩

/-- A load that goes elsewhere, but not to an answered poll. -/
theorem Load.Attached.moves (attached : load.Attached state.manager)
    (hosted : Hosted state.manager manager granted)
    (client : new.client = load.client) (observed : new.observed = load.observed)
    (asked : new.place ≠ .requested .sent)
    (unread : ∀ jobId status, new.place ≠ .polling jobId (.answered (some status))) :
    new.Attached manager where
  unasked := fun place => absurd place asked
  known := by
    rw [client]
    exact (attached.mono hosted).known
  ended := by
    rw [client, Load.Ended, observed]
    exact (attached.mono hosted).ended
  answered := fun jobId status place => absurd place (unread jobId status)

theorem Attached.quiet (attached : Attached state) (sound : Sound state)
    (found : state.loads[id]? = some load)
    (loads : after.loads = state.loads.set id new)
    (hosted : Hosted state.manager after.manager none)
    (client : new.client = load.client) (observed : new.observed = load.observed)
    (asked : new.place ≠ .requested .sent)
    (unread : ∀ jobId status, new.place ≠ .polling jobId (.answered (some status)))
    (inFlight : ∀ detach ∈ after.inFlight, detach ∈ after.deletes)
    (deletes : ∀ detach ∈ state.deletes, detach ∈ after.deletes)
    (delivered : after.delivered = state.delivered) : Attached after :=
  attached.turned sound found loads hosted
    ((attached.loads id load found).moves hosted client observed asked unread)
    (.inl client) nofun inFlight deletes delivered

theorem sendDelete_subset (detach : Detach)
    (inFlight : ∀ detach ∈ state.inFlight, detach ∈ state.deletes) :
    (∀ other ∈ (state.sendDelete detach).inFlight,
      other ∈ (state.sendDelete detach).deletes) ∧
    ∀ other ∈ state.deletes, other ∈ (state.sendDelete detach).deletes := by
  constructor
  · intro other member
    rcases List.mem_cons.mp member with rfl | member
    · exact List.mem_cons_self
    · exact List.mem_cons_of_mem _ (inFlight other member)
  · intro other member
    exact List.mem_cons_of_mem _ member

theorem Attached.cancelActiveRollup (attached : Attached state)
    (sound : Sound state) (page : Nat) :
    Attached (state.cancelActiveRollup page) := by
  have sends := fun detach => sendDelete_subset detach attached.inFlight
  unfold State.cancelActiveRollup
  simp only
  split
  · exact attached.framed sound (.refl attached.listed) rfl attached.inFlight
      (fun _ member => member) fun _ member => .inl member
  · exact attached.framed sound (.refl attached.listed) rfl (sends _).1
      (sends _).2 fun _ member => .inl member

theorem Attached.setPage (attached : Attached state) (sound : Sound state)
    {id : Nat} {page : Page} : Attached (state.setPage id page) :=
  attached.framed sound (.refl attached.listed) rfl attached.inFlight
    (fun _ member => member) fun _ member => .inl member

theorem Attached.request (attached : Attached state) (sound : Sound state)
    {page : Nat} {path : Text} : Attached (state.request page path) := by
  refine attached.advance sound (.refl attached.listed) attached.inFlight
    ?_ ?_ ?_ ?_ ?_
  · exact fun _ member => member
  · exact fun _ member => .inl member
  · intro id load found
    rcases request_loads found with found | ⟨_, rfl⟩
    · exact attached.loads id load found
    · exact ⟨fun _ => rfl, nofun, nofun, nofun⟩
  · intro id load jobId watcher found client
    exact .inr ⟨id, load, request_kept found, client⟩
  · intro jobId watcher grant
    cases grant

theorem Hosted.submit {key : JobKey} {fails : Bool} {jobId watcher : Nat}
    (listed : Jobs.Listed manager)
    (returned : (manager.submit cfg key fails).1 = .returned jobId watcher) :
    Hosted manager (manager.submit cfg key fails).2 (some (jobId, watcher)) := by
  apply Hosted.step listed (submit_step cfg manager key fails)
  intro key' fails' jobId' watcher' same returned'
  cases same
  rw [returned] at returned'
  cases returned'
  rfl

theorem Hosted.reject {key : JobKey} {fails : Bool}
    (listed : Jobs.Listed manager)
    (refused : ∀ jobId watcher,
      (manager.submit cfg key fails).1 ≠ .returned jobId watcher) :
    Hosted manager (manager.submit cfg key fails).2 none := by
  apply Hosted.step listed (submit_step cfg manager key fails)
  intro key' fails' jobId watcher same returned
  cases same
  exact absurd returned (refused jobId watcher)

theorem Attached.detach (cfg : Jobs.Config) (attached : Attached state)
    (sound : Sound state)
    {detach : Detach} {inFlight : List Detach} (sent : detach ∈ state.inFlight)
    (remain : ∀ other ∈ inFlight, other ∈ state.inFlight) :
    Attached { state.detach detach with
      inFlight := inFlight
      delivered := detach :: state.delivered } := by
  have kept : ∀ other ∈ inFlight, other ∈ state.deletes :=
    fun other member => attached.inFlight other (remain other member)
  unfold State.detach
  split
  next refused =>
    refine attached.framed sound (.refl attached.listed) rfl kept
      (fun _ member => member) ?_
    intro other member
    rcases List.mem_cons.mp member with rfl | member
    · refine .inr ⟨sent, ?_⟩
      intro jobId watcher same
      rw [same] at refused
      cases refused
    · exact .inl member
  next cancelToken token =>
    have hosted : Hosted state.manager
        (state.manager.cancel detach.jobId cancelToken) none :=
      .step attached.listed (cancel_step cfg _ _ _) nofun
    refine attached.framed sound hosted rfl kept (fun _ member => member) ?_
    intro other member
    rcases List.mem_cons.mp member with rfl | member
    · refine .inr ⟨sent, ?_⟩
      intro jobId watcher same
      subst same
      cases token
      exact Jobs.Detached.cancel state.manager jobId _
    · exact .inl member

/-- A load has read the end of its client's job. -/
theorem Attached.settle (attached : Attached state) (sound : Sound state)
    {jobId : Nat} {status : Status} (found : state.loads[id]? = some load)
    (place : load.place = .polling jobId (.answered (some status)))
    (terminal : status.Terminal) :
    Attached (state.settle id { load with observed := some status } jobId) := by
  have here := Hosted.refl attached.listed
  have same : ∀ detach ∈ state.deletes, detach ∈ state.deletes :=
    fun _ member => member
  have before := attached.loads id load found
  have shaped := sound.shaped id load found
  obtain ⟨cancelToken, received⟩ := shaped.polls jobId (.inr ⟨_, place⟩)
  have settled : Load.Attached state.manager { load with
      observed := some status
      place := .returned } := by
    refine ⟨nofun, before.known, ?_, nofun⟩
    intro other token client _
    cases (shaped.received _ received).symm.trans client
    exact before.answered jobId status place terminal
  unfold State.settle
  simp only
  split
  · exact attached.turned sound found rfl here settled (.inl rfl) nofun
      attached.inFlight same rfl
  · exact attached.turned sound found rfl here settled (.inl rfl) nofun
      attached.inFlight same rfl

/-- A load becomes the client of the watcher it is given. -/
theorem Attached.submit (attached : Attached state) (sound : Sound state)
    {key : JobKey} {fails : Bool} {jobId watcher : Nat}
    (found : state.loads[id]? = some load)
    (place : load.place = .requested .sent)
    (returned :
      (state.manager.submit cfg key fails).1 = .returned jobId watcher) :
    Attached (State.setLoad
      { state with manager := (state.manager.submit cfg key fails).2 } id
      { load with
        client := some (jobId, watcher)
        place := .requested (.waiting jobId watcher) }) := by
  have before := attached.loads id load found
  have unended := (sound.shaped id load found).unended_of place nofun
  refine attached.turned sound found rfl (.submit attached.listed returned) ?_
    (.inr ?_) ?_ attached.inFlight (fun _ member => member) rfl
  · refine ⟨nofun, ?_, ?_, nofun⟩
    · intro other token client
      cases client
      obtain ⟨_, job, stored, _⟩ := Jobs.Watched.of_returned returned
      exact ⟨job, stored⟩
    · intro _ _ _ ended
      exact absurd ended unended
  · intro other token client
    rw [before.unasked place] at client
    cases client
  · intro pair grant
    exact grant

theorem Attached.step {label : Label Result} (attached : Attached state)
    (sound : Sound state) (stepped : step cfg state label = some after) :
    Attached after := by
  have here := Hosted.refl attached.listed
  have same : ∀ detach ∈ state.deletes, detach ∈ state.deletes :=
    fun _ member => member
  have moved : ∀ {id : Nat} {load : Load} {place : LoadPlace},
      state.loads[id]? = some load → place ≠ .requested .sent →
      (∀ jobId status, place ≠ .polling jobId (.answered (some status))) →
      Attached (state.moveTo id load place) :=
    fun found asked unread => attached.quiet sound found rfl here rfl rfl asked
      unread attached.inFlight same rfl
  cases step_cases stepped with
  | navigate =>
      refine Attached.cancelActiveRollup ?_ ?_ _
      · exact attached.setPage sound
      · exact sound.setPage ⟨rfl, rfl, rfl⟩
  | navigated => exact attached.setPage sound
  | reload =>
      refine Attached.request (Attached.cancelActiveRollup ?_ ?_ _)
        (Sound.cancelActiveRollup ?_ _)
      · exact attached.setPage sound
      · exact sound.setPage ⟨rfl, rfl, rfl⟩
      · exact sound.setPage ⟨rfl, rfl, rfl⟩
  | returned found => exact moved found nofun nofun
  | late found place late =>
      have sends := fun detach => sendDelete_subset detach attached.inFlight
      exact attached.quiet sound found rfl here rfl rfl nofun nofun (sends _).1
        (sends _).2 rfl
  | accept found place current =>
      exact attached.quiet sound found rfl here rfl rfl nofun nofun
        attached.inFlight same rfl
  | poll found place => exact moved found nofun nofun
  | fail found place => exact moved found nofun nofun
  | answer found place refused => exact moved found nofun nofun
  | timeout found place => exact moved found nofun nofun
  | @observe id load jobId status found place current active =>
      have before := attached.loads id load found
      refine attached.turned sound found rfl here ?_ (.inl rfl) nofun
        attached.inFlight same rfl
      refine ⟨nofun, before.known, ?_, nofun⟩
      intro _ _ _ ended
      obtain ⟨_, observed, terminal⟩ := ended
      cases observed
      exact absurd terminal active
  | settle found place _ terminal =>
      exact attached.settle sound found place terminal
  | submit found place returned =>
      exact attached.submit sound found place returned
  | reject found place refused =>
      exact attached.quiet sound found rfl (.reject attached.listed refused) rfl
        rfl nofun nofun attached.inFlight same rfl
  | @finish id load jobId watcher job response found place stored event refused =>
      have client := (sound.shaped id load found).asked jobId watcher (.inl place)
      refine attached.turned sound found rfl here ?_ (.inr ?_) nofun
        attached.inFlight same rfl
      · exact ⟨nofun, nofun, nofun, nofun⟩
      · intro other token client'
        cases client.symm.trans client'
        exact attached.listed.toRuled.ended_of_event stored event
  | @get id load jobId next found place unread =>
      have hosted : Hosted state.manager (state.manager.get cfg jobId).2 none :=
        .step attached.listed (get_step cfg state.manager jobId) nofun
      refine attached.quiet sound found rfl hosted rfl rfl nofun ?_
        attached.inFlight same rfl
      intro other status answered
      cases answered
      exact unread status rfl
  | @status id load jobId job found place stored =>
      have before := attached.loads id load found
      refine attached.turned sound found rfl here ?_ (.inl rfl) nofun
        attached.inFlight same rfl
      refine ⟨nofun, before.known, before.ended, ?_⟩
      intro other status answered terminal
      cases answered
      exact ⟨job, stored, terminal⟩
  | detach sent =>
      exact attached.detach cfg sound (List.mem_of_getElem? sent)
        fun _ member => List.mem_of_mem_eraseIdx member
  | lose =>
      refine attached.framed sound here rfl ?_ same fun _ member => .inl member
      intro detach member
      exact attached.inFlight detach (List.mem_of_mem_eraseIdx member)
  | @manager label manager permitted moved =>
      refine attached.framed sound (.step attached.listed moved ?_) rfl
        attached.inFlight same fun _ member => .inl member
      intro key fails jobId watcher submits
      subst submits
      cases permitted

end Catwalk.Frontend
