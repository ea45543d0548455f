import ApiGateway.Http.ApiError
import ApiGateway.Network.Script

/-!
# Statuses of three digits

An HTTP status is a number of three digits. The gateway's own errors have such a
status, and a network whose scripts hold no other responses answers with no other
and stays such a network.
-/

namespace ApiGateway

namespace Http

/-- Is a number the status of an HTTP response? -/
def IsStatus (status : Nat) : Prop := 100 ≤ status ∧ status < 1000

theorem IsStatus.length_toString {status : Nat} (valid : IsStatus status) :
    (toString status).length = 3 := by
  have atMost : (Nat.repr status).length ≤ 3 :=
    (Nat.length_repr_le_iff (by decide)).mpr valid.2
  have moreThan : ¬ (Nat.repr status).length ≤ 2 := by
    rw [Nat.length_repr_le_iff (by decide)]
    exact Nat.not_lt.mpr valid.1
  rw [Nat.toString_eq_repr]
  omega

/-- The digits of a number tell it. -/
theorem toString_eq_iff {status label : Nat} :
    toString status = toString label ↔ status = label := by
  constructor
  · intro same
    have digits : Nat.toDigits 10 status = Nat.toDigits 10 label := by
      rw [← Nat.toList_repr, ← Nat.toList_repr]
      exact congrArg String.toList same
    rw [← Nat.ofDigitChars_ten_toDigits (n := status), digits, Nat.ofDigitChars_ten_toDigits]
  · exact congrArg toString

theorem ApiError.isStatus_status (error : ApiError) : IsStatus error.status := by
  obtain ⟨code, message⟩ := error
  cases code <;> exact ⟨Nat.le_of_ble_eq_true rfl, Nat.le_of_ble_eq_true rfl⟩

end Http

open Http (IsStatus)

/-- A response that comes at the end of an exchange has a status. -/
def ReplyEnd.HasStatus (ending : ReplyEnd) : Prop :=
  ∀ response, ending = .response response → IsStatus response.status

/-- All responses in a script have a status. -/
structure HostScript.HasStatuses (script : HostScript) : Prop where
  replies : ∀ reply ∈ script.replies.getD [], reply.outcome.HasStatus
  probes : ∀ reply ∈ script.probes.getD [], reply.outcome.HasStatus

/-- All responses in all scripts have a status. -/
def Network.HasStatuses (network : Network) : Prop :=
  ∀ host ∈ network.hosts, host.2.HasStatuses

/-- What a delivery gives and what it leaves have statuses. -/
structure Delivery.HasStatuses (delivery : Delivery) : Prop where
  network : delivery.network.HasStatuses
  outcome : ∀ delay response, delivery.outcome = some (delay, .ok response) →
    IsStatus response.status

theorem Delivery.HasStatuses.keepOutcome {delivery : Delivery} (valid : delivery.HasStatuses)
    (keep : Duration → Bool) : (delivery.keepOutcome keep).HasStatuses where
  network := valid.network
  outcome delay response kept :=
    valid.outcome delay response (Option.filter_eq_some_iff.mp kept).1

namespace Network

theorem mem_of_takeReply? {replies rest : List Reply} {reply : Reply}
    (taken : takeReply? replies = some (reply, rest)) :
    reply ∈ replies ∧ ∀ other ∈ rest, other ∈ replies := by
  unfold takeReply? at taken
  split at taken
  · cases taken
  · cases taken
    exact ⟨List.mem_cons_self, fun other member => member⟩
  · cases taken
    exact ⟨List.mem_cons_self, fun other member => List.mem_cons_of_mem _ member⟩

theorem isStatus_of_outcomeOf {reply : Reply} (valid : reply.outcome.HasStatus) {delay : Duration}
    {response : Http.Response} (ended : outcomeOf reply = some (delay, .ok response)) :
    IsStatus response.status := by
  unfold outcomeOf at ended
  split at ended
  · next other replied =>
      cases ended
      exact valid _ replied
  · cases ended
  · cases ended
  · cases ended

theorem status_carried (method : String) (response : Http.Response) :
    (carried method response).status = response.status := by
  unfold carried
  split <;> rfl

namespace HasStatuses

variable {network : Network} (valid : network.HasStatuses)
include valid

theorem host {authority : String} {script : HostScript}
    (found : network.host? authority = some script) : script.HasStatuses := by
  obtain ⟨before, rest, hosts, -⟩ := List.lookup_eq_some_iff.mp found
  refine valid (authority, script) ?_
  rw [hosts]
  exact List.mem_append_right _ List.mem_cons_self

theorem setHost {authority : String} {script : HostScript} (proper : script.HasStatuses) :
    (network.setHost authority script).HasStatuses := by
  intro host member
  rcases List.mem_append.mp member with kept | added
  · exact valid host (List.mem_filter.mp kept).1
  · rw [List.mem_singleton.mp added]
    exact proper

theorem deliverDirect (purpose : Purpose) (request : Http.Request) :
    (network.deliverDirect purpose request).HasStatuses := by
  simp only [Network.deliverDirect]
  split
  · next reply rest script taken found =>
      have proper := valid.host found
      rw [found] at taken
      obtain ⟨first, left⟩ := mem_of_takeReply? taken
      have kept : HostScript.HasStatuses { script with replies := some rest } :=
        ⟨fun other member => proper.replies other (left other member), proper.probes⟩
      exact ⟨valid.setHost kept, fun _ _ => isStatus_of_outcomeOf (proper.replies reply first)⟩
  · exact ⟨valid, nofun⟩

theorem deliverConnection (purpose : Purpose) (request : Http.Request) :
    (network.deliverConnection purpose request).HasStatuses := by
  simp only [Network.deliverConnection]
  split
  · exact ⟨valid, nofun⟩
  · next script found =>
      have proper := valid.host found
      split
      · exact ⟨valid, nofun⟩
      · exact ⟨valid, nofun⟩
      · split
        · refine ⟨valid, ?_⟩
          intro delay response ended
          cases ended
          exact ⟨Nat.le_of_ble_eq_true rfl, Nat.le_of_ble_eq_true rfl⟩
        · next reply rest taken =>
            obtain ⟨first, left⟩ := mem_of_takeReply? taken
            have replied : reply.outcome.HasStatus := by
              cases purpose with
              | forwarded => exact proper.replies reply first
              | probe => exact proper.probes reply first
            refine ⟨valid.setHost ?_, ?_⟩
            · cases purpose with
              | forwarded =>
                  exact ⟨fun other member => proper.replies other (left other member),
                    proper.probes⟩
              | probe =>
                  exact ⟨proper.replies,
                    fun other member => proper.probes other (left other member)⟩
            · intro delay response ended
              obtain ⟨⟨time, outcome⟩, known, same⟩ := Option.map_eq_some_iff.mp ended
              cases outcome with
              | error error => cases same
              | ok original =>
                  cases same
                  rw [status_carried]
                  exact isStatus_of_outcomeOf replied known

theorem deliverWithin (medium : Medium) (purpose : Purpose) (request : Http.Request)
    (limit : Duration) : (network.deliverWithin medium purpose request limit).HasStatuses := by
  have delivered : (network.deliver medium purpose request).HasStatuses := by
    cases medium with
    | direct => exact valid.deliverDirect purpose request
    | connection => exact valid.deliverConnection purpose request
  simp only [Network.deliverWithin]
  split
  · exact delivered.keepOutcome _
  · exact delivered
  · split
    · exact ⟨valid, nofun⟩
    · exact delivered.keepOutcome _

end HasStatuses

end Network

end ApiGateway
