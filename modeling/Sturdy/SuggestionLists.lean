import Sturdy.SuggestionFailures

namespace Sturdy

/-- Modelled from the spec: `Workspace.IsArchived`, an archive time is set. -/
def Workspace.isArchived (ws : Workspace) : Bool := ws.archivedAt.isSome

namespace SuggestionWorld

variable {Tree : Type}

/-- The loop of `ListForWorkspaceID`: each suggestion's workspace is read in order, and the
suggestion kept when that workspace is not archived; the first failed read ends it. -/
def activeSuggestions (s : SuggestionWorld Tree) (lookupFault : String → Option Err) :
    List Suggestion → Except Err (List Suggestion)
  | [] => .ok []
  | sugg :: rest =>
    match s.getWorkspace (lookupFault sugg.workspaceID) sugg.workspaceID with
    | .error e => .error (e.wrap "failed to get workspace")
    | .ok ws =>
      (s.activeSuggestions lookupFault rest).map fun active =>
        if ws.isArchived then active else sugg :: active

/-- Modelled from the spec: the order in which `suggestionRepo.ListForWorkspaceID`, not in
the sources, returns the stored suggestions for a workspace. Nothing fixes it, so it is any
arrangement of the rows. -/
structure ListOrder where
  arrange : List Suggestion → List Suggestion
  perm : ∀ l, (arrange l).Perm l

/-- `ListForWorkspaceID`, with `suggestionRepo.ListForWorkspaceID` modelled from the spec
as the stored suggestions for the workspace, in the repository's order. -/
def listForWorkspaceID (s : SuggestionWorld Tree) (order : ListOrder) (forWorkspaceID : String)
    (listFault : Option Err) (lookupFault : String → Option Err) : Except Err (List Suggestion) :=
  match listFault with
  | some e => .error e
  | none =>
    s.activeSuggestions lookupFault (order.arrange (s.suggestions.filter (·.forWorkspaceID == forWorkspaceID)))

/-- A suggestion is open when its suggesting workspace is stored and not archived. -/
def isOpen (s : SuggestionWorld Tree) (sugg : Suggestion) : Bool :=
  (s.workspaces.lookup sugg.workspaceID).any (!·.isArchived)

/-- The reads `ListForWorkspaceID` makes for a suggestion succeed. -/
def Readable (s : SuggestionWorld Tree) (lookupFault : String → Option Err) (sugg : Suggestion) :
    Prop :=
  lookupFault sugg.workspaceID = none ∧ (s.workspaces.lookup sugg.workspaceID).isSome

theorem activeSuggestions_of_readable {s : SuggestionWorld Tree} {lookupFault : String → Option Err} :
    ∀ {l : List Suggestion}, (∀ sugg ∈ l, s.Readable lookupFault sugg) →
      s.activeSuggestions lookupFault l = .ok (l.filter s.isOpen)
  | [], _ => rfl
  | sugg :: rest, readable => by
    obtain ⟨fault, found⟩ := readable sugg (List.mem_cons_self _ _)
    obtain ⟨ws, found⟩ := Option.isSome_iff_exists.mp found
    have restOk := activeSuggestions_of_readable fun x member =>
      readable x (List.mem_cons_of_mem _ member)
    simp only [activeSuggestions, getWorkspace, fetch, fault, found, restOk, Except.map,
      List.filter_cons, isOpen, Option.any]
    cases ws.isArchived <;> rfl

theorem activeSuggestions_readable {s : SuggestionWorld Tree} {lookupFault : String → Option Err} :
    ∀ {l active : List Suggestion}, s.activeSuggestions lookupFault l = .ok active →
      ∀ sugg ∈ l, s.Readable lookupFault sugg
  | [], _, _ => fun _ member => by cases member
  | sugg :: rest, active, ok => by
    unfold activeSuggestions at ok
    split at ok
    · cases ok
    rename_i ws got
    obtain ⟨fault, found, same⟩ := getWorkspace_ok got
    cases restOk : s.activeSuggestions lookupFault rest with
    | error e => rw [restOk] at ok; cases ok
    | ok restActive =>
      intro x member
      rcases List.mem_cons.mp member with rfl | member
      · exact ⟨fault, by rw [← same, found]; rfl⟩
      · exact activeSuggestions_readable restOk x member

/-- `ListForWorkspaceID` succeeds exactly when the list and every listed suggestion's
workspace can be read, and then returns the open suggestions for the workspace, in the
repository's order. -/
theorem listForWorkspaceID_ok_iff {s : SuggestionWorld Tree} {order : ListOrder} {forWorkspaceID : String}
    {listFault : Option Err} {lookupFault : String → Option Err} {active : List Suggestion} :
    s.listForWorkspaceID order forWorkspaceID listFault lookupFault = .ok active ↔
      listFault = none ∧
        (∀ sugg ∈ s.suggestions, sugg.forWorkspaceID = forWorkspaceID → s.Readable lookupFault sugg) ∧
        active = (order.arrange (s.suggestions.filter (·.forWorkspaceID == forWorkspaceID))).filter s.isOpen := by
  unfold listForWorkspaceID
  cases listFault with
  | some e => simp
  | none =>
    have listed : ∀ sugg, sugg ∈ order.arrange (s.suggestions.filter (·.forWorkspaceID == forWorkspaceID)) ↔
        sugg ∈ s.suggestions ∧ sugg.forWorkspaceID = forWorkspaceID := fun sugg => by
      rw [(order.perm _).mem_iff]; simp
    constructor
    · intro ok
      have readable := activeSuggestions_readable ok
      rw [activeSuggestions_of_readable readable] at ok
      exact ⟨rfl, fun sugg member target => readable sugg ((listed sugg).mpr ⟨member, target⟩),
        (Except.ok.inj ok).symm⟩
    · rintro ⟨-, readable, rfl⟩
      exact activeSuggestions_of_readable fun sugg member =>
        readable sugg ((listed sugg).mp member).1 ((listed sugg).mp member).2

/-- A successful `Create` stores one new suggestion, from the new workspace for the target,
with the new workspace not archived, and keeps every other workspace record. -/
theorem create_ok {s : SuggestionWorld Tree} {userID : String} {forWorkspace : Workspace}
    {f : SuggestionFaults} {sugg : Suggestion} (freshWorkspace : s.workspaces.lookup f.newWorkspaceID = none)
    (created : (s.create userID forWorkspace f).1 = .ok sugg) :
    sugg.workspaceID = f.newWorkspaceID ∧ sugg.forWorkspaceID = forWorkspace.id ∧
      (s.create userID forWorkspace f).2.suggestions = s.suggestions ++ [sugg] ∧
      (∃ ws, (s.create userID forWorkspace f).2.workspaces.lookup f.newWorkspaceID = some ws ∧
        ws.isArchived = false) ∧
      ∀ id, id ≠ f.newWorkspaceID →
        (s.create userID forWorkspace f).2.workspaces.lookup id = s.workspaces.lookup id := by
  unfold create at created ⊢
  split at created
  · cases created
  dsimp only at created ⊢
  split at created
  · cases created
  rename_i ws _ made
  unfold createFromWorkspace at made
  split at made
  · cases made
  cases made
  split at created
  · cases created
  rename_i copiedOk
  obtain ⟨t, taken⟩ := copyPatches_ok copiedOk
  obtain ⟨old, stored, table, -, -, -, suggs, -⟩ := snapshot_ok taken
  rw [Memory.lookup_create _ _ freshWorkspace, Function.update_same] at stored
  cases stored
  split at created
  · cases created
  cases created
  refine ⟨rfl, rfl, by rw [suggs], ⟨_, by rw [table, Function.update_same], by rfl⟩, fun id other => ?_⟩
  rw [table, Function.update_noteq other, lookup_create_ne (Ne.symm other)]

/-- After a successful `Create`, listing the target's suggestions gives what it gave before
with the new suggestion added, in whatever order the repository returns the rows each time,
when the id drawn for the new workspace was free and its read succeeds. -/
theorem listForWorkspaceID_after_create {s : SuggestionWorld Tree} {userID : String}
    {forWorkspace : Workspace} {f : SuggestionFaults} {sugg : Suggestion}
    {lookupFault : String → Option Err} {listed : List Suggestion} (order order' : ListOrder)
    (freshWorkspace : s.workspaces.lookup f.newWorkspaceID = none)
    (newReads : lookupFault f.newWorkspaceID = none)
    (created : (s.create userID forWorkspace f).1 = .ok sugg)
    (before : s.listForWorkspaceID order forWorkspace.id none lookupFault = .ok listed) :
    ∃ listed', (s.create userID forWorkspace f).2.listForWorkspaceID order' forWorkspace.id none lookupFault =
      .ok listed' ∧ listed'.Perm (listed ++ [sugg]) := by
  obtain ⟨fromNew, forTarget, suggs, ⟨ws, newRecord, notArchived⟩, others⟩ :=
    create_ok freshWorkspace created
  obtain ⟨-, readable, rfl⟩ := listForWorkspaceID_ok_iff.mp before
  have old : ∀ x ∈ s.suggestions, x.forWorkspaceID = forWorkspace.id →
      x.workspaceID ≠ f.newWorkspaceID := fun x member target same => by
    have := (readable x member target).2
    rw [same, freshWorkspace] at this
    cases this
  set s' := (s.create userID forWorkspace f).2
  have stored : s'.suggestions.filter (·.forWorkspaceID == forWorkspace.id) =
      s.suggestions.filter (·.forWorkspaceID == forWorkspace.id) ++ [sugg] := by
    simp [suggs, List.filter_append, forTarget]
  have opened : (s.suggestions.filter (·.forWorkspaceID == forWorkspace.id)).filter s'.isOpen =
      (s.suggestions.filter (·.forWorkspaceID == forWorkspace.id)).filter s.isOpen := by
    refine List.filter_congr fun x member => ?_
    obtain ⟨member, target⟩ : x ∈ s.suggestions ∧ x.forWorkspaceID = forWorkspace.id := by
      simpa using member
    simp only [isOpen, others _ (old x member target)]
  have newOpen : s'.isOpen sugg = true := by simp [isOpen, fromNew, newRecord, notArchived]
  refine ⟨_, listForWorkspaceID_ok_iff.mpr ⟨rfl, fun x member target => ?_, rfl⟩, ?_⟩
  · rw [suggs, List.mem_append, List.mem_singleton] at member
    rcases member with member | rfl
    · obtain ⟨fault, found⟩ := readable x member target
      exact ⟨fault, by rw [others _ (old x member target)]; exact found⟩
    · exact ⟨fromNew ▸ newReads, by rw [fromNew, newRecord]; rfl⟩
  · refine ((order'.perm _).filter _).trans ?_
    rw [stored, List.filter_append, opened, List.filter_singleton, newOpen, cond_true]
    exact ((order.perm _).filter _).symm.append_right _

/-- A suggestion created on a workspace that had none, listed once in the rows' order and
once in the reverse order. -/
theorem listForWorkspaceID_lists_created_suggestion :
    let target : Workspace := { id := "t", viewID := some "v", latestSnapshotID := some "base" }
    let s₀ : SuggestionWorld String :=
      { workspaces := ⟨[target]⟩, views := fun _ => "", snapshots := [⟨"base", "t", ""⟩], suggestions := [] }
    let sugg : Suggestion :=
      { id := "suggestion", workspaceID := "suggesting", forSnapshotID := "base", forWorkspaceID := "t",
        userID := "u" }
    let rows : ListOrder := ⟨id, List.Perm.refl⟩
    let reversed : ListOrder := ⟨List.reverse, List.reverse_perm⟩
    (s₀.create "u" target {}).1 = .ok sugg ∧ s₀.listForWorkspaceID rows "t" none (fun _ => none) = .ok [] ∧
      ∃ listed', (s₀.create "u" target {}).2.listForWorkspaceID reversed "t" none (fun _ => none) = .ok listed' ∧
        listed'.Perm ([] ++ [sugg]) := by
  intro target s₀ sugg rows reversed
  have created : (s₀.create "u" target {}).1 = .ok sugg := rfl
  have before : s₀.listForWorkspaceID rows target.id none (fun _ => none) = .ok [] := rfl
  have fresh : s₀.workspaces.lookup ({} : SuggestionFaults).newWorkspaceID = none := rfl
  exact ⟨created, before, listForWorkspaceID_after_create rows reversed fresh rfl created before⟩

end SuggestionWorld

end Sturdy
