import Sturdy.SuggestionRuns

namespace Sturdy

namespace Suggestion

theorem recordActivityUpdate_id {now : Nat} {s w : Suggestion} (written : s.recordActivityUpdate now = some w) :
    w.id = s.id := by
  unfold recordActivityUpdate at written
  dsimp only at written
  split at written
  · cases written; rfl
  · cases written

/-- `RecordActivity` leaves a suggestion unwritten only when it was notified already. -/
theorem recordActivityUpdate_none {now : Nat} {s : Suggestion} (unchanged : s.recordActivityUpdate now = none) :
    s.notifiedAt.isSome := by
  unfold recordActivityUpdate at unchanged
  dsimp only at unchanged
  split at unchanged
  · cases unchanged
  · next keep => cases h : s.notifiedAt <;> simp_all

end Suggestion

namespace SuggestionWorld

variable {Tree : Type}

/-- The notification attempts of `RecordActivity`, sent or failed, once per suggestion:
suggestion ids are unique, every attempt names a stored suggestion whose `NotifiedAt` is set,
every stored suggestion whose `NotifiedAt` is set has an attempt, and no two attempts name
the same suggestion. -/
structure NotifiedOnce (s : SuggestionWorld Tree) : Prop where
  ids : (s.suggestions.map (·.id)).Nodup
  recorded : ∀ n ∈ s.notifications, ∃ x ∈ s.suggestions, x.id = n.suggestionID ∧ x.notifiedAt.isSome
  sent : ∀ x ∈ s.suggestions, x.notifiedAt.isSome → ∃ n ∈ s.notifications, n.suggestionID = x.id
  once : (s.notifications.map (·.suggestionID)).Nodup

section Writes

variable {s s' : SuggestionWorld Tree}

theorem NotifiedOnce.same_id (inv : s.NotifiedOnce) {x y : Suggestion} (hx : x ∈ s.suggestions)
    (hy : y ∈ s.suggestions) (same : x.id = y.id) : x = y :=
  List.inj_on_of_nodup_map inv.ids hx hy same

theorem NotifiedOnce.of_eq (inv : s.NotifiedOnce) (suggestions : s'.suggestions = s.suggestions)
    (notifications : s'.notifications = s.notifications) : s'.NotifiedOnce := by
  obtain ⟨ids, recorded, sent, once⟩ := inv
  rw [← suggestions, ← notifications] at *
  exact ⟨ids, recorded, sent, once⟩

/-- A stored row with the written record's id is the copy it was made from, and is replaced
by the record. -/
theorem NotifiedOnce.writeBack_row (inv : s.NotifiedOnce) {c w x : Suggestion} (stored : c ∈ s.suggestions)
    (sameID : w.id = c.id) (member : x ∈ s.suggestions) :
    (if x.id = w.id then w else x) = x ∧ x.id ≠ w.id ∨ x = c ∧ (if x.id = w.id then w else x) = w := by
  split
  · next same => exact .inr ⟨inv.same_id member stored (same.trans sameID), rfl⟩
  · next other => exact .inl ⟨rfl, other⟩

/-- A write-back of `w` over the stored copy `c` it was made from, keeping whether
`NotifiedAt` is set. -/
theorem NotifiedOnce.writeBack (inv : s.NotifiedOnce) {c w : Suggestion} (stored : c ∈ s.suggestions)
    (sameID : w.id = c.id) (kept : w.notifiedAt.isSome = c.notifiedAt.isSome) :
    ({ s with suggestions := s.suggestions.map fun x => if x.id = w.id then w else x } :
      SuggestionWorld Tree).NotifiedOnce := by
  refine ⟨by simpa only [writeBack_ids] using inv.ids, fun n member => ?_, fun y member set => ?_, inv.once⟩
  · obtain ⟨x, old, named, set⟩ := inv.recorded n member
    refine ⟨_, List.mem_map_of_mem _ old, ?_⟩
    rcases inv.writeBack_row stored sameID old with ⟨same, -⟩ | ⟨rfl, replaced⟩
    · rw [same]; exact ⟨named, set⟩
    · rw [replaced]; exact ⟨sameID.trans named, kept ▸ set⟩
  · obtain ⟨x, old, rfl⟩ := List.mem_map.mp member
    rcases inv.writeBack_row stored sameID old with ⟨same, -⟩ | ⟨rfl, replaced⟩
    · rw [same] at set ⊢; exact inv.sent x old set
    · rw [replaced] at set ⊢
      rw [sameID]; exact inv.sent _ stored (kept ▸ set)

/-- The notification attempt for a stored suggestion whose `NotifiedAt` is unset, sent or
failed, then the write-back of the record with `NotifiedAt` set. -/
theorem NotifiedOnce.notify (inv : s.NotifiedOnce) {c w : Suggestion} (stored : c ∈ s.suggestions)
    (unset : c.notifiedAt = none) (sameID : w.id = c.id) (set : w.notifiedAt.isSome) (owner : String)
    (sent : Bool) :
    ({ s with
        suggestions := s.suggestions.map fun x => if x.id = w.id then w else x
        notifications := s.notifications ++ [⟨owner, c.id, sent⟩] } : SuggestionWorld Tree).NotifiedOnce := by
  have fresh : c.id ∉ s.notifications.map (·.suggestionID) := fun named => by
    obtain ⟨n, member, same⟩ := List.mem_map.mp named
    obtain ⟨x, old, id, isSet⟩ := inv.recorded n member
    rw [inv.same_id old stored (id.trans same), unset] at isSet
    cases isSet
  have replacedIn : w ∈ s.suggestions.map fun x => if x.id = w.id then w else x :=
    List.mem_map.mpr ⟨c, stored, by simp [sameID]⟩
  refine ⟨by simpa only [writeBack_ids] using inv.ids, fun n member => ?_, fun y member isSet => ?_, ?_⟩
  · rcases List.mem_append.mp member with old | new
    · obtain ⟨x, stored', named, isSet⟩ := inv.recorded n old
      refine ⟨_, List.mem_map_of_mem _ stored', ?_⟩
      rcases inv.writeBack_row stored sameID stored' with ⟨same, -⟩ | ⟨rfl, replaced⟩
      · rw [same]; exact ⟨named, isSet⟩
      · rw [replaced]; exact ⟨sameID.trans named, set⟩
    · cases List.mem_singleton.mp new
      exact ⟨w, replacedIn, sameID, set⟩
  · obtain ⟨x, old, rfl⟩ := List.mem_map.mp member
    rcases inv.writeBack_row stored sameID old with ⟨same, -⟩ | ⟨rfl, replaced⟩
    · rw [same] at isSet ⊢
      obtain ⟨n, sent, named⟩ := inv.sent x old isSet
      exact ⟨n, List.mem_append_left _ sent, named⟩
    · rw [replaced, sameID]
      exact ⟨⟨owner, x.id, sent⟩, List.mem_append_right _ (List.mem_singleton_self _), rfl⟩
  · rw [List.map_append]
    exact List.nodup_append.mpr ⟨inv.once, List.nodup_singleton _,
      fun a old new => by cases List.mem_singleton.mp new; exact fresh old⟩

/-- A new suggestion with a fresh id and `NotifiedAt` unset. -/
theorem NotifiedOnce.append (inv : s.NotifiedOnce) {sugg : Suggestion} (fresh : sugg.id ∉ s.suggestions.map (·.id))
    (unset : sugg.notifiedAt = none) :
    ({ s with suggestions := s.suggestions ++ [sugg] } : SuggestionWorld Tree).NotifiedOnce := by
  refine ⟨?_, fun n member => ?_, fun y member isSet => ?_, inv.once⟩
  · rw [List.map_append]
    exact List.nodup_append.mpr ⟨inv.ids, List.nodup_singleton _,
      fun a old new => by cases List.mem_singleton.mp new; exact fresh old⟩
  · obtain ⟨x, stored, named, isSet⟩ := inv.recorded n member
    exact ⟨x, List.mem_append_left _ stored, named, isSet⟩
  · rcases List.mem_append.mp member with old | new
    · exact inv.sent y old isSet
    · rw [List.mem_singleton.mp new, unset] at isSet
      cases isSet

theorem NotifiedOnce.snapshot (inv : s.NotifiedOnce) (fault markFault : Option Err)
    (snapshotID workspaceID : String) (t : Tree) :
    (s.snapshot fault markFault snapshotID workspaceID t).2.NotifiedOnce :=
  let ⟨_, suggestions, notifications, _⟩ := snapshot_frame s fault markFault snapshotID workspaceID t
  inv.of_eq suggestions notifications

end Writes

section Calls

variable {engine : PatchEngine Tree} {parse : String → Except Err HunkPos} {s : SuggestionWorld Tree}
  {sugg : Suggestion}

theorem NotifiedOnce.applyHunks (inv : s.NotifiedOnce) (stored : sugg ∈ s.suggestions) (hunkIDs : List String)
    (f : SuggestionFaults) : (s.applyHunks engine parse sugg hunkIDs f).2.NotifiedOnce := by
  rcases applyHunks_cases s sugg hunkIDs f with ⟨same, -⟩ |
    ⟨target, d, -, -, ⟨_, applied, -⟩ | ⟨patched, applied, ⟨e, -, run⟩ | run⟩⟩
  · rw [same]; exact inv
  all_goals
    obtain ⟨suggestions, notifications⟩ := applyToTarget_frame s target ((selectHunks hunkIDs d).map (·.1)) f
    rw [applied] at suggestions notifications
    have first := inv.of_eq suggestions notifications
  · exact first
  · rw [run]; exact first
  · rw [run]
    exact @NotifiedOnce.writeBack _ _ first sugg (sugg.appendApplied _) (suggestions ▸ stored) rfl rfl

theorem NotifiedOnce.dismissHunks (inv : s.NotifiedOnce) (stored : sugg ∈ s.suggestions) (hunkIDs : List String)
    (f : SuggestionFaults) : (s.dismissHunks engine parse sugg hunkIDs f).2.NotifiedOnce := by
  rcases dismissHunks_cases s sugg hunkIDs f with same | ⟨entries, -, written⟩
  · rw [same]; exact inv
  · rw [update_ok written]; exact inv.writeBack stored rfl rfl

theorem NotifiedOnce.dismiss (inv : s.NotifiedOnce) (stored : sugg ∈ s.suggestions) (f : SuggestionFaults) :
    (s.dismiss sugg f).2.NotifiedOnce := by
  rcases dismiss_cases s sugg f with same | written
  · rw [same]; exact inv
  · rw [update_ok written]; exact inv.writeBack stored rfl rfl

theorem NotifiedOnce.removePatches (inv : s.NotifiedOnce) (patchIDs : List String) (f : SuggestionFaults) :
    (s.removePatches engine parse sugg patchIDs f).2.NotifiedOnce := by
  rcases removePatches_cases s sugg patchIDs f with same | ⟨ws, v, t, -, -, made⟩
  · rw [same]; exact inv
  have viewed : ({ s with views := Function.update s.views v t } : SuggestionWorld Tree).NotifiedOnce :=
    inv.of_eq rfl rfl
  have snapshotted := viewed.snapshot f.snapshot f.markLatest f.newSnapshotID ws.id t
  rcases made with ⟨e, taken⟩ | ⟨taken, -⟩ <;> rwa [taken] at snapshotted

/-- `RecordActivity` whose write-back does not fail notifies a suggestion only while its
`NotifiedAt` is unset, and then sets it, whether or not the notification was sent. -/
theorem NotifiedOnce.recordActivity (inv : s.NotifiedOnce) (workspaceID : String) {f : SuggestionFaults}
    (noFault : f.update = none) : (s.recordActivity workspaceID f).2.NotifiedOnce := by
  rcases recordActivity_cases s workspaceID f with same |
    ⟨sugg, owner, notified, stored, -, -, suggestions, notifications, ⟨same, unchanged | failed⟩ | ⟨w, wrote, written⟩⟩
  · rw [same]; exact inv
  · have isSet := Suggestion.recordActivityUpdate_none unchanged
    rw [same]
    exact inv.of_eq suggestions (by simp [notifications, Option.isSome_iff_ne_none.mp isSet])
  · simp [noFault] at failed
  · rw [update_ok written]
    have sameID := Suggestion.recordActivityUpdate_id wrote
    have isSet := (Suggestion.recordActivityUpdate_spec wrote).2.2
    cases unset : sugg.notifiedAt with
    | none =>
      exact (inv.notify stored unset sameID isSet owner f.notify.isNone).of_eq (by simp [suggestions])
        (by simp [notifications, unset])
    | some _ =>
      exact (inv.writeBack stored sameID (by rw [isSet, unset]; rfl)).of_eq (by simp [suggestions])
        (by simp [notifications, unset])

theorem NotifiedOnce.create (inv : s.NotifiedOnce) (userID : String) (forWorkspace : Workspace)
    {f : SuggestionFaults} (fresh : f.newSuggestionID ∉ s.suggestions.map (·.id)) :
    (s.create userID forWorkspace f).2.NotifiedOnce := by
  rcases create_cases s userID forWorkspace f with same | ⟨forSnapshotID, ws, -, -, -, -, made⟩
  · rw [same]; exact inv
  have first : ({ s with workspaces := s.workspaces.create ws } : SuggestionWorld Tree).NotifiedOnce := inv.of_eq rfl rfl
  rcases made with made | ⟨copied, copiedIs, made⟩
  · rw [made]; exact first
  obtain ⟨-, suggestions, notifications, -⟩ :=
    copiedIs ▸ copyPatches_frame { s with workspaces := s.workspaces.create ws } ws forWorkspace f
  have second := first.of_eq suggestions notifications
  rcases made with made | ⟨sugg, id, -, -, -, -, -, unset, run⟩
  · rw [made]; exact second
  rw [run]
  exact second.append (by rw [id, suggestions]; exact fresh) unset

end Calls

end SuggestionWorld

/-- The call runs with no other call between its handler's read and its write: its record was
read in the world it runs on. `Create` draws a suggestion id that no stored suggestion has,
and `RecordActivity`'s write-back does not fail. -/
def SuggestionCall.SerialIn {Tree : Type} (s : SuggestionWorld Tree) : SuggestionCall → Prop
  | .create _ _ f => f.newSuggestionID ∉ s.suggestions.map (·.id)
  | .recordActivity _ f => f.update = none
  | c => c.ReadIn s

theorem SuggestionWorld.NotifiedOnce.call {Tree : Type} {engine : PatchEngine Tree}
    {parse : String → Except Err HunkPos} {s : SuggestionWorld Tree} (inv : s.NotifiedOnce) (c : SuggestionCall)
    (serial : c.SerialIn s) : (c.apply engine parse s).NotifiedOnce := by
  cases c with
  | create userID forWorkspace f => exact inv.create userID forWorkspace serial
  | applyHunks sugg hunkIDs f => exact inv.applyHunks serial hunkIDs f
  | dismissHunks sugg hunkIDs f => exact inv.dismissHunks serial hunkIDs f
  | removePatches sugg patchIDs f => exact inv.removePatches patchIDs f
  | dismiss sugg f => exact inv.dismiss serial f
  | recordActivity workspaceID f => exact inv.recordActivity workspaceID serial

/-- Calls one after another, each serial in the world the calls before it left. -/
inductive SerialRun {Tree : Type} (engine : PatchEngine Tree) (parse : String → Except Err HunkPos) :
    SuggestionWorld Tree → List SuggestionCall → SuggestionWorld Tree → Prop
  | nil (s : SuggestionWorld Tree) : SerialRun engine parse s [] s
  | cons {s s' : SuggestionWorld Tree} {c : SuggestionCall} {calls : List SuggestionCall} (serial : c.SerialIn s)
      (rest : SerialRun engine parse (c.apply engine parse s) calls s') : SerialRun engine parse s (c :: calls) s'

namespace SerialRun

variable {Tree : Type} {engine : PatchEngine Tree} {parse : String → Except Err HunkPos}

theorem notifiedOnce {s s' : SuggestionWorld Tree} {calls : List SuggestionCall}
    (run : SerialRun engine parse s calls s') (init : s.NotifiedOnce) : s'.NotifiedOnce := by
  induction run with
  | nil => exact init
  | cons serial _ ih => exact ih (init.call _ serial)

/-- In a run of the suggestion service in which no two calls overlap, every `Create` draws a
fresh suggestion id and no `RecordActivity` write-back fails, from a world whose
notification attempts are once per suggestion, every stored suggestion has had exactly one
notification attempt if its `NotifiedAt` is set, and none otherwise: a send that failed is
never tried again. -/
theorem notified_exactly_once {s s' : SuggestionWorld Tree} {calls : List SuggestionCall}
    (run : SerialRun engine parse s calls s') (init : s.NotifiedOnce) :
    ∀ x ∈ s'.suggestions,
      (s'.notifications.map (·.suggestionID)).count x.id = if x.notifiedAt.isSome then 1 else 0 := by
  have final := run.notifiedOnce init
  intro x stored
  split
  · next isSet =>
    obtain ⟨n, sent, named⟩ := final.sent x stored isSet
    exact List.count_eq_one_of_mem final.once (List.mem_map.mpr ⟨n, sent, named⟩)
  · next unset =>
    refine List.count_eq_zero_of_not_mem fun named => unset ?_
    obtain ⟨n, sent, same⟩ := List.mem_map.mp named
    obtain ⟨y, stored', id, isSet⟩ := final.recorded n sent
    rwa [final.same_id stored' stored (id.trans same)] at isSet

/-- Two `RecordActivity` calls on a suggestion never notified, the first with
`notificationSender.User` failing: the first sets `NotifiedAt` after the failed attempt, and
the second does not try again, so the target's owner is never notified. -/
theorem failed_notification_is_not_retried :
    let sugg : Suggestion := { id := "sugg", workspaceID := "s", forWorkspaceID := "t" }
    let s : SuggestionWorld String :=
      { workspaces := ⟨[{ id := "t", userID := "owner" }]⟩, views := fun _ => "", snapshots := [],
        suggestions := [sugg] }
    let engine : PatchEngine String := ⟨fun t _ => .ok t, fun _ _ t => .ok t, fun _ _ => .ok []⟩
    let first := SuggestionCall.recordActivity "s" { notify := some (Err.new "unavailable") }
    let second := SuggestionCall.recordActivity "s" { now := 1 }
    let s' := second.apply engine parseAppliedHunkID (first.apply engine parseAppliedHunkID s)
    SerialRun engine parseAppliedHunkID s [first, second] s' ∧ s.NotifiedOnce ∧
      (∀ x ∈ s'.suggestions,
        (s'.notifications.map (·.suggestionID)).count x.id = if x.notifiedAt.isSome then 1 else 0) ∧
      s'.notifications = [⟨"owner", "sugg", false⟩] := by
  intro sugg s engine first second s'
  have run : SerialRun engine parseAppliedHunkID s [first, second] s' := .cons rfl (.cons rfl (.nil _))
  have init : s.NotifiedOnce := ⟨by decide, nofun,
    fun x member isSet => by cases List.mem_singleton.mp member; exact absurd isSet (by decide), by decide⟩
  exact ⟨run, init, notified_exactly_once run init, rfl⟩

end SerialRun

end Sturdy
