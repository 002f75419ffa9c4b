import GitTutor.Session.Basic
import Mathlib.Tactic.Common

/-!
The gate of an activity.

Whether a line may run is decided by its first two tokens (`Command.keyOfLine`), while what it
does is decided by the command that is read from all of them (`Command.ofLine`). The two readings
agree on every line, so that the gate is as good as one that looks at the command itself.
-/

namespace GitTutor

namespace Command

/-! ### The key of a command that has been read -/

lemma ok_of_return {α β : Type} {f : α → β} {x : Except ReadError α} {b : β}
    (h : (do return f (← x)) = Except.ok b) : ∃ a, x = .ok a ∧ f a = b := by
  cases x with
  | error e => cases h
  | ok a => exact ⟨a, rfl, Except.ok.inj h⟩

lemma key_of_remoteTokens {tokens args : List String} {c : Command}
    (h : ofRemoteTokens tokens args = .ok c) : c.key = "git remote" := by
  unfold ofRemoteTokens at h
  split at h
  · exact Except.ok.inj h ▸ rfl
  · exact Except.ok.inj h ▸ rfl
  · rename_i rest
    cases ha : argument rest 0 .remoteAdd with
    | error e =>
      rw [ha] at h
      cases h
    | ok name =>
      rw [ha] at h
      obtain ⟨url, -, rfl⟩ := ok_of_return h
      rfl
  · obtain ⟨name, -, rfl⟩ := ok_of_return h
    rfl
  · obtain ⟨name, -, rfl⟩ := ok_of_return h
    rfl
  · cases h

lemma key_of_gitTokens {tokens rest : List String} {c : Command}
    (h : ofGitTokens tokens rest = .ok c) : rest.head?.map ("git " ++ ·) = some c.key := by
  unfold ofGitTokens at h
  -- One case for each second token, in the order of the reader.
  split at h
  · cases h
  · exact Except.ok.inj h ▸ rfl
  · exact Except.ok.inj h ▸ rfl
  · split at h
    · cases h
    · split at h <;> exact Except.ok.inj h ▸ rfl
  · obtain ⟨text, -, rfl⟩ := ok_of_return h
    rfl
  · exact Except.ok.inj h ▸ rfl
  · split at h <;> exact Except.ok.inj h ▸ rfl
  · split at h
    · cases h
    · obtain ⟨name, -, rfl⟩ := ok_of_return h
      rfl
    · split at h <;> exact Except.ok.inj h ▸ rfl
  · obtain ⟨branch, -, rfl⟩ := ok_of_return h
    rfl
  · exact Except.ok.inj h ▸ rfl
  · exact Except.ok.inj h ▸ rfl
  · exact Except.ok.inj h ▸ rfl
  · obtain ⟨url, -, rfl⟩ := ok_of_return h
    rfl
  · rw [key_of_remoteTokens h]
    rfl
  · split at h
    · cases h
    · exact Except.ok.inj h ▸ rfl
    · exact Except.ok.inj h ▸ rfl
    · cases h
  · cases h

lemma key_of_hostTokens {tokens rest : List String} {c : Command}
    (h : ofHostTokens tokens rest = .ok c) : rest.head?.map ("github " ++ ·) = some c.key := by
  unfold ofHostTokens at h
  split at h
  · cases h
  · obtain ⟨name, -, rfl⟩ := ok_of_return h
    rfl
  · exact Except.ok.inj h ▸ rfl
  · split at h
    · cases h
    · unfold request at h
      split at h
      · exact Except.ok.inj h ▸ rfl
      · cases h
    · exact Except.ok.inj h ▸ rfl
    · split at h
      · exact Except.ok.inj h ▸ rfl
      · cases h
    · cases h
  · cases h

lemma keyOfLine_eq {line : String} {c : Command} (h : ofLine line = .ok (some c)) :
    keyOfLine line = some c.key := by
  unfold ofLine ofTokens at h
  unfold keyOfLine
  split at h <;> rename_i hline
  · cases h
  · rw [hline]
    exact Option.some.inj (Except.ok.inj h) ▸ rfl
  · rw [hline]
    exact Option.some.inj (Except.ok.inj h) ▸ rfl
  · rw [hline]
    exact Option.some.inj (Except.ok.inj h) ▸ rfl
  · rw [hline]
    obtain ⟨file, -, hc⟩ := ok_of_return h
    exact Option.some.inj hc ▸ rfl
  · rw [hline]
    obtain ⟨file, -, hc⟩ := ok_of_return h
    exact Option.some.inj hc ▸ rfl
  · rw [hline]
    obtain ⟨c', hgit, hc⟩ := ok_of_return h
    exact Option.some.inj hc ▸ key_of_gitTokens hgit
  · rw [hline]
    obtain ⟨c', hhost, hc⟩ := ok_of_return h
    exact Option.some.inj hc ▸ key_of_hostTokens hhost
  · cases h

end Command

namespace Session

/-- **The gate cannot be bypassed.** A line that is read as a command has the key of that command.
So under an activity with a list of keys, a command whose key is not in the list is blocked and
leaves the session as it was, and a line that changes anything at all is read as a command whose
key is in the list. -/
theorem gate_holds (s : Session) (now : Int64) (line : String) :
    (∀ c, Command.ofLine line = .ok (some c) → Command.keyOfLine line = some c.key) ∧
      ∀ activity allowed, s.activity = some activity → activity.allowed = some allowed →
        (∀ c, Command.ofLine line = .ok (some c) → allowed.contains c.key = false →
          s.run now line = (.error (.blocked c.key activity.title), s)) ∧
        ((s.run now line).2 ≠ s →
          ∃ c, Command.ofLine line = .ok (some c) ∧ allowed.contains c.key = true) := by
  refine ⟨fun c h => Command.keyOfLine_eq h, fun activity allowed chosen list => ?_⟩
  have hallows : ∀ key, Activity.allows s.activity key = allowed.contains key := by
    intro key
    rw [Activity.allows, chosen, Option.bind_some, list]
  have blocked : ∀ c, Command.ofLine line = .ok (some c) → allowed.contains c.key = false →
      s.run now line = (.error (.blocked c.key activity.title), s) := by
    intro c hread hkey
    rw [run, hread]
    simp only [Command.keyOfLine_eq hread, hallows, hkey, Bool.false_eq_true, if_false]
    rw [chosen, Activity.titleOf]
  refine ⟨blocked, fun changed => ?_⟩
  cases hread : Command.ofLine line with
  | error e => exact absurd (by rw [run, hread]) changed
  | ok read =>
    cases read with
    | none => exact absurd (by rw [run, hread]) changed
    | some c =>
      refine ⟨c, rfl, ?_⟩
      by_contra hkey
      rw [Bool.not_eq_true] at hkey
      exact changed (by rw [blocked c hread hkey])

/-- A session of an activity that allows `touch` alone. -/
def touchOnly : Session :=
  { Session.new .inMemory ⟨"", ""⟩ with
    activity := some
      { id := "touch", title := "Files", description := "", allowed := some (.ofList ["touch"])
        missions := [], seeds := [] } }

theorem gate_holds_touchOnly :
    touchOnly.run 0 "git 'init'" = (.error (.blocked "git init" "Files"), touchOnly) ∧
      ∃ c, Command.ofLine "touch a" = .ok (some c) ∧
        (NameSet.ofList ["touch"]).contains c.key = true :=
  ⟨((gate_holds touchOnly 0 "git 'init'").2 _ _ rfl rfl).1 .init (by decide +kernel)
      (by decide +kernel),
    ((gate_holds touchOnly 0 "touch a").2 _ _ rfl rfl).2 (by decide +kernel)⟩

end Session

end GitTutor
