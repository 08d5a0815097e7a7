import Catwalk.Frontend.Machine
import Catwalk.Jobs.Lifecycle

/-! Everything a step of the pages and their server can do. -/

namespace Catwalk.Frontend

open Catwalk.Jobs (Status)
open Catwalk.Api (JobKey)

variable {Result : Type}

/-- The ways a step can go, with what it writes. -/
inductive Transition (cfg : Jobs.Config) (state : State Result) :
    State Result → Prop
  | navigate {page path} : Transition cfg state (state.navigate page path)
  | navigated {page index} :
      Transition cfg state (state.setPage page { state.pages page with
        navigations := (state.pages page).navigations.eraseIdx index })
  | reload {page index target} :
      Transition cfg state ((state.setPage page { state.pages page with
        navigations :=
          (state.pages page).navigations.eraseIdx index }).loadRollup page target)
  | returned {id load} (found : state.loads[id]? = some load) :
      Transition cfg state (state.moveTo id load .returned)
  | late {id load jobId cancelToken} (found : state.loads[id]? = some load)
      (place : load.place =
        .requested (.answered (.accepted jobId cancelToken)))
      (late : load.token ≠ (state.pages load.page).rollupToken) :
      Transition cfg state ((state.sendDelete ⟨jobId, some cancelToken⟩).setLoad
        id { load with
          received := some (jobId, cancelToken)
          place := .returned })
  | accept {id load jobId cancelToken} (found : state.loads[id]? = some load)
      (place : load.place =
        .requested (.answered (.accepted jobId cancelToken)))
      (current : load.token = (state.pages load.page).rollupToken) :
      Transition cfg state ((state.setPage load.page { state.pages load.page with
        activeRollupJobId := some jobId
        activeRollupCancelToken := some cancelToken }).setLoad id { load with
          received := some (jobId, cancelToken)
          place := .sleeping jobId })
  | poll {id load jobId} (found : state.loads[id]? = some load)
      (place : load.place = .sleeping jobId) :
      Transition cfg state (state.moveTo id load (.polling jobId .sent))
  | observe {id load jobId status} (found : state.loads[id]? = some load)
      (place : load.place = .polling jobId (.answered (some status)))
      (current : load.token = (state.pages load.page).rollupToken)
      (active : ¬ status.Terminal) :
      Transition cfg state (state.setLoad id { load with
        observed := some status
        place := .sleeping jobId })
  | settle {id load jobId status} (found : state.loads[id]? = some load)
      (place : load.place = .polling jobId (.answered (some status)))
      (current : load.token = (state.pages load.page).rollupToken)
      (terminal : status.Terminal) :
      Transition cfg state
        (state.settle id { load with observed := some status } jobId)
  | answer {id load request response} (found : state.loads[id]? = some load)
      (place : load.place = .requested request)
      (refused : ∀ jobId cancelToken, response ≠ .accepted jobId cancelToken) :
      Transition cfg state
        (state.moveTo id load (.requested (.answered response)))
  | submit {id load key fails jobId watcher}
      (found : state.loads[id]? = some load)
      (place : load.place = .requested .sent)
      (returned :
        (state.manager.submit cfg key fails).1 = .returned jobId watcher) :
      Transition cfg state (State.setLoad
        { state with manager := (state.manager.submit cfg key fails).2 } id
        { load with
          client := some (jobId, watcher)
          place := .requested (.waiting jobId watcher) })
  | reject {id load key fails} (found : state.loads[id]? = some load)
      (place : load.place = .requested .sent)
      (refused : ∀ jobId watcher,
        (state.manager.submit cfg key fails).1 ≠ .returned jobId watcher) :
      Transition cfg state (State.moveTo
        { state with manager := (state.manager.submit cfg key fails).2 } id load
        (.requested (.answered .failure)))
  | finish {id load jobId watcher job response}
      (found : state.loads[id]? = some load)
      (place : load.place = .requested (.waiting jobId watcher))
      (stored : state.manager.heap jobId = some job) (event : job.event = true)
      (refused : ∀ jobId cancelToken, response ≠ .accepted jobId cancelToken) :
      Transition cfg state (state.setLoad id { load with
        client := none
        place := .requested (.answered response) })
  | timeout {id load jobId watcher} (found : state.loads[id]? = some load)
      (place : load.place = .requested (.waiting jobId watcher)) :
      Transition cfg state (state.moveTo id load
        (.requested (.answered (.accepted jobId watcher))))
  | get {id load jobId next} (found : state.loads[id]? = some load)
      (place : load.place = .polling jobId .sent)
      (unread : ∀ status, next ≠ .answered (some status)) :
      Transition cfg state (State.moveTo
        { state with manager := (state.manager.get cfg jobId).2 } id load
        (.polling jobId next))
  | status {id load jobId job} (found : state.loads[id]? = some load)
      (place : load.place = .polling jobId .found)
      (stored : state.manager.heap jobId = some job) :
      Transition cfg state (state.moveTo id load
        (.polling jobId (.answered (some job.status))))
  | fail {id load jobId poll} (found : state.loads[id]? = some load)
      (place : load.place = .polling jobId poll) :
      Transition cfg state
        (state.moveTo id load (.polling jobId (.answered none)))
  | detach {index detach} (sent : state.inFlight[index]? = some detach) :
      Transition cfg state { state.detach detach with
        inFlight := state.inFlight.eraseIdx index
        delivered := detach :: state.delivered }
  | lose {index} :
      Transition cfg state
        { state with inFlight := state.inFlight.eraseIdx index }
  | manager {label manager} (permitted : permits label)
      (moved : Jobs.step cfg state.manager label = some manager) :
      Transition cfg state { state with manager := manager }

variable {cfg : Jobs.Config} {state after : State Result} {id : Nat}
  {load : Load}

theorem respond_cases {response : Response}
    (found : state.loads[id]? = some load)
    (place : load.place = .requested (.answered response)) :
    Transition cfg state (state.respond id load response) := by
  cases response with
  | result | failure => exact .returned found
  | accepted jobId cancelToken =>
      unfold State.respond
      simp only
      split
      next late =>
        have detached : Transition cfg state _ := .late found place late
        exact detached
      next current => exact .accept found place (not_not.mp current)

theorem polled_cases {jobId : Nat} {status : Option Status}
    (found : state.loads[id]? = some load)
    (place : load.place = .polling jobId (.answered status)) :
    Transition cfg state (state.polled id load jobId status) := by
  unfold State.polled
  split
  · exact .returned found
  next current =>
    have current := not_not.mp current
    cases status with
    | none => exact .returned found
    | some status =>
        cases status with
        | done | error | cancelled =>
            exact .settle found place current (by decide)
        | queued | running =>
            have goesOn : Transition cfg state _ :=
              .observe found place current (by decide)
            exact goesOn

theorem arrive_cases {arrival : Arrival} (found : state.loads[id]? = some load)
    (place : load.place = .requested .sent) :
    Transition cfg state (state.arrive cfg id load arrival) := by
  cases arrival with
  | refused => exact .answer found place nofun
  | cached => exact .answer found place nofun
  | submitted fails =>
      unfold State.arrive
      simp only
      split
      next jobId watcher returned =>
        have attached : Transition cfg state _ := .submit found place returned
        exact attached
      next refused => exact .reject found place refused

theorem finish_cases {jobId watcher : Nat} {job : Jobs.Job JobKey Result}
    (found : state.loads[id]? = some load)
    (place : load.place = .requested (.waiting jobId watcher))
    (stored : state.manager.heap jobId = some job) (event : job.event = true) :
    Transition cfg state (state.finish id load job) := by
  unfold State.finish
  apply Transition.finish found place stored event
  intro jobId cancelToken
  split <;> exact nofun

theorem get_cases {jobId : Nat} (found : state.loads[id]? = some load)
    (place : load.place = .polling jobId .sent)
    (stepped : (match state.manager.get cfg jobId with
      | (some _, manager) =>
          some (State.moveTo { state with manager := manager } id load
            (.polling jobId .found))
      | (none, manager) =>
          some (State.moveTo { state with manager := manager } id load
            (.polling jobId (.answered none)))) = some after) :
    Transition cfg state after := by
  split at stepped <;> cases stepped
  next job manager got =>
    have known : Transition cfg state (State.moveTo _ id load
        (.polling jobId .found)) := .get found place nofun
    rw [got] at known
    exact known
  next manager got =>
    have unknown : Transition cfg state (State.moveTo _ id load
        (.polling jobId (.answered none))) := .get found place nofun
    rw [got] at unknown
    exact unknown

theorem step_cases {label : Label Result}
    (stepped : step cfg state label = some after) :
    Transition cfg state after := by
  cases label with
  | navigate page path =>
      cases stepped
      exact .navigate
  | navigated page index failed =>
      obtain ⟨target, _, rfl⟩ := Option.map_eq_some_iff.mp stepped
      simp only
      split
      · exact .navigated
      · exact .reload
  | respond id =>
      obtain ⟨load, found, stepped⟩ := Option.bind_eq_some_iff.mp stepped
      split at stepped <;> cases stepped
      next place => exact respond_cases found place
  | poll id =>
      obtain ⟨load, found, stepped⟩ := Option.bind_eq_some_iff.mp stepped
      split at stepped <;> cases stepped
      next place =>
        unfold State.poll
        split
        · exact .returned found
        · exact .poll found place
  | polled id =>
      obtain ⟨load, found, stepped⟩ := Option.bind_eq_some_iff.mp stepped
      split at stepped <;> cases stepped
      next place => exact polled_cases found place
  | arrive id arrival =>
      obtain ⟨load, found, stepped⟩ := Option.bind_eq_some_iff.mp stepped
      split at stepped <;> cases stepped
      next place => exact arrive_cases found place
  | finish id =>
      obtain ⟨load, found, stepped⟩ := Option.bind_eq_some_iff.mp stepped
      split at stepped
      next jobId watcher place =>
        obtain ⟨job, stored, stepped⟩ := Option.bind_eq_some_iff.mp stepped
        split at stepped <;> cases stepped
        next event _ => exact finish_cases found place stored event
      · cases stepped
  | timeout id =>
      obtain ⟨load, found, stepped⟩ := Option.bind_eq_some_iff.mp stepped
      split at stepped <;> cases stepped
      next place => exact .timeout found place
  | get id =>
      obtain ⟨load, found, stepped⟩ := Option.bind_eq_some_iff.mp stepped
      split at stepped
      next jobId place => exact get_cases found place stepped
      · cases stepped
  | status id =>
      obtain ⟨load, found, stepped⟩ := Option.bind_eq_some_iff.mp stepped
      split at stepped
      next place =>
        obtain ⟨job, stored, rfl⟩ := Option.map_eq_some_iff.mp stepped
        exact .status found place stored
      · cases stepped
  | fail id =>
      obtain ⟨load, found, stepped⟩ := Option.bind_eq_some_iff.mp stepped
      split at stepped <;> cases stepped
      next place => exact .answer found place nofun
      next place => exact .fail found place
  | detach index =>
      obtain ⟨detach, sent, rfl⟩ := Option.map_eq_some_iff.mp stepped
      exact .detach sent
  | lose index =>
      change (if _ then _ else _) = _ at stepped
      split at stepped <;> cases stepped
      exact .lose
  | manager label =>
      change (if _ then _ else _) = _ at stepped
      split at stepped
      next permitted =>
        obtain ⟨manager, moved, rfl⟩ := Option.map_eq_some_iff.mp stepped
        exact .manager permitted moved
      · cases stepped

end Catwalk.Frontend
