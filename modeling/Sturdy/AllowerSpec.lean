import Sturdy.Allower

namespace Sturdy

namespace AllowerEnv

variable {env : AllowerEnv}

theorem newAllower_ok {patterns : List String} {a : Allower} (ok : env.newAllower patterns = .ok a) :
    a.patterns = patterns := by
  unfold newAllower at ok
  split at ok <;> cases ok
  rfl

theorem orNoneAllowed_ok {α : Type} {context : String} {found : Except Err α}
    {next : α → Except Err Allower} {a : Allower} (ok : orNoneAllowed context found next = .ok a) :
    a = noneAllowed ∨ ∃ x, found = .ok x ∧ next x = .ok a := by
  unfold orNoneAllowed at ok
  split at ok
  · split at ok <;> cases ok
    exact .inl rfl
  · exact .inr ⟨_, rfl, ok⟩

theorem viaCodebase_ok {codebaseID : String} {next : Codebase → Except Err Allower} {a : Allower}
    (ok : env.viaCodebase codebaseID next = .ok a) :
    ∃ cb, env.getCodebase codebaseID = .ok cb ∧ next cb = .ok a := by
  unfold viaCodebase at ok
  split at ok
  · cases ok
  · exact ⟨_, ‹_›, ok⟩

/-- What a user's allower on a codebase holds: patterns the codebase's policy lists for
the user's e-mail or id. -/
theorem getUserCodebaseAllower_ok {userID : String} {cb : Codebase} {a : Allower}
    (ok : env.getUserCodebaseAllower userID cb = .ok a) :
    ∀ p ∈ a.patterns, ∃ policy user, env.getPolicy cb.id = .ok policy ∧
      env.getUser userID = .ok user ∧ p ∈ policy user.email ++ policy user.id := by
  intro p member
  rcases orNoneAllowed_ok ok with rfl | ⟨policy, found, ok⟩
  · cases member
  rcases orNoneAllowed_ok ok with rfl | ⟨user, foundUser, ok⟩
  · cases member
  exact ⟨policy, user, found, foundUser, newAllower_ok ok ▸ member⟩

theorem user_grants {subject : Subject} {obj : AuthObject} {cb : Codebase} {a : Allower}
    (isUser : subject.type = .user) (resolved : env.CodebaseOf cb obj)
    (ok : env.getUserCodebaseAllower subject.id cb = .ok a) :
    ∀ p ∈ a.patterns, env.Grants subject obj p := fun p member =>
  let ⟨_, _, policy, user, listed⟩ := getUserCodebaseAllower_ok ok p member
  .userPolicy isUser resolved policy user listed

theorem viaCodebase_user_grants {subject : Subject} {obj : AuthObject} {codebaseID : String}
    {a : Allower} (isUser : subject.type = .user)
    (resolves : ∀ cb, env.getCodebase codebaseID = .ok cb → env.CodebaseOf cb obj)
    (ok : env.viaCodebase codebaseID (env.getUserCodebaseAllower subject.id) = .ok a) :
    ∀ p ∈ a.patterns, env.Grants subject obj p :=
  let ⟨cb, found, ok⟩ := viaCodebase_ok ok
  user_grants isUser (resolves cb found) ok

theorem all_grants {subject : Subject} {obj : AuthObject} (star : env.Grants subject obj "*") :
    ∀ p ∈ allAllowed.patterns, env.Grants subject obj p := by
  simpa [allAllowed] using star

theorem anonymous_grants {subject : Subject} {obj : AuthObject} {codebaseID : String} {a : Allower}
    (route : ∀ cb, env.getCodebase codebaseID = .ok cb → cb.isPublic = true →
      env.Grants subject obj "*")
    (ok : env.viaCodebase codebaseID (fun cb => .ok (getAnonymousCodebaseAllower cb)) = .ok a) :
    ∀ p ∈ a.patterns, env.Grants subject obj p := by
  obtain ⟨cb, found, public⟩ := viaCodebase_ok ok
  unfold getAnonymousCodebaseAllower at public
  split at public <;> cases public
  · exact all_grants (route cb found ‹_›)
  · intro p member; cases member

/-- Every pattern in an allower `GetAllower` returns was granted to the request's subject
on that object by one route: a mutagen subject, a CI subject on the change its id names,
an anonymous subject on a change or workspace of a public codebase, or a user whom the
policy of the object's codebase lists by e-mail or id. -/
theorem getAllower_sound {obj : AuthObject} {a : Allower} (ok : env.getAllower (some obj) = .ok a) :
    ∀ p ∈ a.patterns, ∃ subject, env.subject = some subject ∧ env.Grants subject obj p := by
  unfold getAllower at ok
  cases signedIn : env.subject with
  | none => rw [signedIn] at ok; cases ok; intro p member; cases member
  | some subject =>
    rw [signedIn] at ok
    dsimp only at ok
    suffices ∀ p ∈ a.patterns, env.Grants subject obj p from fun p member => ⟨subject, rfl, this p member⟩
    split at ok
    · cases ok; exact all_grants (.mutagen ‹_›)
    · exact user_grants ‹_› rfl ok
    · exact viaCodebase_user_grants ‹_› (fun _ => id) ok
    · exact viaCodebase_user_grants ‹_› (fun _ => id) ok
    · exact viaCodebase_user_grants ‹_› (fun _ => id) ok
    · rename_i isCI
      cases ok
      unfold getCIAllower
      split
      · intro p member; cases member
      · rename_i same
        rw [← not_not.mp same]
        exact all_grants (.ciOwnChange isCI)
    · exact anonymous_grants (fun _ found public => .anonymousPublicChange ‹_› found public) ok
    · exact anonymous_grants (fun _ found public => .anonymousPublicWorkspace ‹_› found public) ok
    · cases ok; intro p member; cases member

example :
    let env : AllowerEnv :=
      { subject := some ⟨.anonymous, ""⟩, getCodebase := fun _ => .ok { id := "c", isPublic := true },
        getPolicy := fun _ => .error errNoRows, getUser := fun _ => .error errNoRows }
    (env.getAllower (some (.change "ch" "c"))).toOption = some allAllowed ∧
      (env.getAllower (some (.codebase { id := "c", isPublic := true }))).toOption = some noneAllowed := by
  decide

/-- A user whose e-mail the codebase's policy lists, on a change of that codebase. -/
theorem getAllower_user_listed_by_policy :
    let env : AllowerEnv :=
      { subject := some ⟨.user, "u"⟩, getCodebase := fun _ => .ok { id := "c" },
        getPolicy := fun _ => .ok fun identity => if identity = "u-mail" then ["src/*"] else [],
        getUser := fun _ => .ok ⟨"u", "u-mail"⟩ }
    env.getAllower (some (.change "ch" "c")) = .ok ⟨["src/*"]⟩ ∧
      ∀ p ∈ (⟨["src/*"]⟩ : Allower).patterns, ∃ subject, env.subject = some subject ∧
        env.Grants subject (.change "ch" "c") p := by
  intro env
  have ok : env.getAllower (some (.change "ch" "c")) = .ok ⟨["src/*"]⟩ := rfl
  exact ⟨ok, getAllower_sound ok⟩

/-- The collaborator failures `GetAllower` reports, each under its own text. -/
inductive AllowerError (env : AllowerEnv) : Err → Prop
  | codebase {codebaseID : String} {e : Err} :
      env.getCodebase codebaseID = .error e → AllowerError env (e.wrap "failed to get codebase")
  | policy {codebaseID : String} {e : Err} : env.getPolicy codebaseID = .error e →
      e.cause ≠ .noRows → AllowerError env (e.wrap "failed to get acl policy")
  | user {userID : String} {e : Err} : env.getUser userID = .error e → e.cause ≠ .noRows →
      AllowerError env (e.wrap "failed to get user")
  | rejected {patterns : List String} {e : Err} : env.rejects patterns = some e → AllowerError env e

theorem orNoneAllowed_error {α : Type} {context : String} {found : Except Err α}
    {next : α → Except Err Allower} {e : Err} (failed : orNoneAllowed context found next = .error e) :
    (∃ e', found = .error e' ∧ e'.cause ≠ .noRows ∧ e = e'.wrap context) ∨
      ∃ x, found = .ok x ∧ next x = .error e := by
  unfold orNoneAllowed at failed
  split at failed
  · split at failed <;> cases failed
    exact .inl ⟨_, rfl, ‹_›, rfl⟩
  · exact .inr ⟨_, rfl, failed⟩

theorem getUserCodebaseAllower_error {userID : String} {cb : Codebase} {e : Err}
    (failed : env.getUserCodebaseAllower userID cb = .error e) : env.AllowerError e := by
  rcases orNoneAllowed_error failed with ⟨e', found, real, rfl⟩ | ⟨policy, -, failed⟩
  · exact .policy found real
  rcases orNoneAllowed_error failed with ⟨e', found, real, rfl⟩ | ⟨user, -, failed⟩
  · exact .user found real
  unfold newAllower at failed
  split at failed <;> cases failed
  exact .rejected ‹_›

theorem viaCodebase_error {codebaseID : String} {next : Codebase → Except Err Allower} {e : Err}
    (inner : ∀ cb, next cb = .error e → env.AllowerError e)
    (failed : env.viaCodebase codebaseID next = .error e) : env.AllowerError e := by
  unfold viaCodebase at failed
  split at failed
  · cases failed; exact .codebase ‹_›
  · exact inner _ failed

/-- `GetAllower` fails only when a collaborator does, and its error says which: the
codebase lookup, a policy or user lookup failing other than with no row, or
`NewAllower`. -/
theorem getAllower_error {obj : Option AuthObject} {e : Err} (failed : env.getAllower obj = .error e) :
    env.AllowerError e := by
  unfold getAllower at failed
  split at failed
  · cases failed
  · cases failed
  · split at failed <;> first
      | cases failed
      | exact getUserCodebaseAllower_error failed
      | exact viaCodebase_error (fun _ => getUserCodebaseAllower_error) failed
      | exact viaCodebase_error (fun _ stop => by cases stop) failed

theorem getAllower_codebase_lookup_failure :
    let env : AllowerEnv :=
      { subject := some ⟨.user, "u"⟩, getCodebase := fun _ => .error (Err.new "connection refused"),
        getPolicy := fun _ => .error errNoRows, getUser := fun _ => .error errNoRows }
    env.getAllower (some (.workspace "c")) = .error ((Err.new "connection refused").wrap "failed to get codebase") ∧
      env.AllowerError ((Err.new "connection refused").wrap "failed to get codebase") := by
  intro env
  have failed : env.getAllower (some (.workspace "c")) =
      .error ((Err.new "connection refused").wrap "failed to get codebase") := rfl
  exact ⟨failed, getAllower_error failed⟩

end AllowerEnv

end Sturdy
