import Sturdy.Errors

namespace Sturdy

/-- A suggestion record (`suggestions.Suggestion`), with the fields the modelled code
reads or writes. Timestamps are natural numbers and pointer fields are options. -/
structure Suggestion where
  id : String := ""
  codebaseID : String := ""
  workspaceID : String := ""
  forSnapshotID : String := ""
  forWorkspaceID : String := ""
  userID : String := ""
  createdAt : Nat := 0
  dismissedAt : Option Nat := none
  notifiedAt : Option Nat := none
  appliedHunks : List String := []
  dismissedHunks : List String := []
  deriving DecidableEq, Repr

/-- A ledger position (`suggestions.Hunk`): a file's preferred name and the index of a
hunk in it. The index is Go's `int`. -/
structure HunkPos where
  fileName : String
  index : Int
  deriving DecidableEq, Repr

/-- Modelled from the spec: `(*suggestions.Hunk).String`, which is not in the sources,
writes the ledger entry `filename#index`. -/
def HunkPos.toEntry (pos : HunkPos) : String := pos.fileName ++ "#" ++ toString pos.index

/-- A hunk of a decorated diff (`unidiff.Hunk`) with the flags `diffs` sets. -/
structure Hunk where
  id : String
  patch : String
  isApplied : Bool := false
  isDismissed : Bool := false
  isOutdated : Bool := false
  deriving DecidableEq, Repr

/-- A file of a decorated diff (`unidiff.FileDiff`). -/
structure FileDiff where
  preferredName : String
  hunks : List Hunk
  deriving DecidableEq, Repr

/-- A file as `Decorate` returns it: its preferred name and each hunk's id and patch, with
no flag set yet. -/
structure RawFileDiff where
  preferredName : String
  hunks : List (String × String)
  deriving DecidableEq, Repr

def FileDiff.ofRaw (raw : RawFileDiff) : FileDiff :=
  ⟨raw.preferredName, raw.hunks.map fun (id, patch) => { id, patch }⟩

/-- How a call fails: it returns an error, or it panics (a nil pointer dereference or an
index out of range), which no caller sees as a returned error. -/
inductive Failure where
  | error (e : Err)
  | panic (reason : String)
  deriving DecidableEq, Repr

/-- `fmt.Errorf(ctx + ": %w", err)` on a returned error; a panic passes through. -/
def Failure.wrap (ctx : String) : Failure → Failure
  | .error e => .error (e.wrap ctx)
  | .panic reason => .panic reason

/-- A collaborator's error, wrapped by the caller. -/
def wrapErr {α : Type} (ctx : String) (result : Except Err α) : Except Failure α :=
  result.mapError fun e => .error (e.wrap ctx)

def nilDereference : Failure := .panic "nil pointer dereference"

namespace Suggestion

/-- What `ApplyHunks` writes back: its copy with the new entries after `AppliedHunks`. -/
def appendApplied (entries : List String) (s : Suggestion) : Suggestion :=
  { s with appliedHunks := s.appliedHunks ++ entries }

/-- What `DismissHunks` writes back: its copy with the new entries after `DismissedHunks`. -/
def appendDismissed (entries : List String) (s : Suggestion) : Suggestion :=
  { s with dismissedHunks := s.dismissedHunks ++ entries }

/-- What `Dismiss` writes back. -/
def dismissAt (now : Nat) (s : Suggestion) : Suggestion := { s with dismissedAt := some now }

/-- What `RecordActivity` writes back, if anything: `NotifiedAt` is set when it was not,
`DismissedAt` is cleared when it was set, and nothing is written when neither applies. -/
def recordActivityUpdate (now : Nat) (s : Suggestion) : Option Suggestion :=
  let shouldNotify := s.notifiedAt.isNone
  let shouldResurrect := s.dismissedAt.isSome
  if shouldNotify || shouldResurrect then
    some { s with
      notifiedAt := if shouldNotify then some now else s.notifiedAt
      dismissedAt := if shouldResurrect then none else s.dismissedAt }
  else none

@[simp] theorem appendApplied_id (entries : List String) (s : Suggestion) :
    (s.appendApplied entries).id = s.id := rfl

@[simp] theorem appendDismissed_id (entries : List String) (s : Suggestion) :
    (s.appendDismissed entries).id = s.id := rfl

@[simp] theorem dismissAt_id (now : Nat) (s : Suggestion) : (s.dismissAt now).id = s.id := rfl

@[simp] theorem appendApplied_appliedHunks (entries : List String) (s : Suggestion) :
    (s.appendApplied entries).appliedHunks = s.appliedHunks ++ entries := rfl

@[simp] theorem appendApplied_dismissedHunks (entries : List String) (s : Suggestion) :
    (s.appendApplied entries).dismissedHunks = s.dismissedHunks := rfl

@[simp] theorem appendApplied_notifiedAt (entries : List String) (s : Suggestion) :
    (s.appendApplied entries).notifiedAt = s.notifiedAt := rfl

@[simp] theorem appendDismissed_appliedHunks (entries : List String) (s : Suggestion) :
    (s.appendDismissed entries).appliedHunks = s.appliedHunks := rfl

@[simp] theorem appendDismissed_dismissedHunks (entries : List String) (s : Suggestion) :
    (s.appendDismissed entries).dismissedHunks = s.dismissedHunks ++ entries := rfl

@[simp] theorem appendDismissed_notifiedAt (entries : List String) (s : Suggestion) :
    (s.appendDismissed entries).notifiedAt = s.notifiedAt := rfl

@[simp] theorem appendApplied_nil (s : Suggestion) : s.appendApplied [] = s := by
  simp [appendApplied]

@[simp] theorem appendDismissed_nil (s : Suggestion) : s.appendDismissed [] = s := by
  simp [appendDismissed]

@[simp] theorem dismissAt_appliedHunks (now : Nat) (s : Suggestion) :
    (s.dismissAt now).appliedHunks = s.appliedHunks := rfl

@[simp] theorem dismissAt_dismissedHunks (now : Nat) (s : Suggestion) :
    (s.dismissAt now).dismissedHunks = s.dismissedHunks := rfl

@[simp] theorem dismissAt_notifiedAt (now : Nat) (s : Suggestion) :
    (s.dismissAt now).notifiedAt = s.notifiedAt := rfl

/-- `RecordActivity` keeps both ledgers, and what it writes has `NotifiedAt` set. -/
theorem recordActivityUpdate_spec {now : Nat} {s s' : Suggestion}
    (written : recordActivityUpdate now s = some s') :
    s'.appliedHunks = s.appliedHunks ∧ s'.dismissedHunks = s.dismissedHunks ∧
      s'.notifiedAt.isSome := by
  unfold recordActivityUpdate at written
  dsimp only at written
  split at written
  · cases written
    refine ⟨rfl, rfl, ?_⟩
    cases h : s.notifiedAt <;> simp [h]
  · cases written

end Suggestion

end Sturdy
