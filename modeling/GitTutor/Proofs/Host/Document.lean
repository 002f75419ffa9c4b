import GitTutor.Host.Store
import GitTutor.Proofs.Data.RoundTrip

/-!
Stores give back what they keep.

The document of a record is read as the record, whatever its texts, ids and times are. So it makes
no difference to the host whether its store keeps records or documents.
-/

namespace GitTutor

open Value

/-! ### Lists -/

lemma list?_map {α : Type} {read : Value → Option α} {write : α → Value}
    (back : ∀ a, read (write a) = some a) (as : List α) :
    list? read (.list (as.map write)) = some as := by
  have items : (as.map write).mapM read = some as := by
    induction as with
    | nil => rfl
    | cons a as ih => simp [back, ih]
  exact items

lemma integralItems_map {α : Type} {write : α → Value} (integral : ∀ a, (write a).Integral)
    (as : List α) : IntegralItems (as.map write) := by
  induction as with
  | nil => trivial
  | cons a as ih => exact ⟨integral a, ih⟩

/-! ### Members -/

section

variable {α : Type} {ms : List (String × Value)} {name : String} {read : Value → Option α}
  {v : Value} {a missing : α}

lemma required?_of_lookup (found : ms.lookup name = some v) (back : read v = some a) :
    required? ms name read = some a := by
  rw [required?, found, Option.bind_some, back]

lemma optional?_of_lookup (found : ms.lookup name = some v) (back : read v = some a) :
    optional? ms name missing read = some a := by
  rw [optional?, found]
  exact back

end

/-! ### Records -/

lemma int64?_toInt (n : Int64) : int64? (.int n.toInt) = some n := by
  rw [int64?, intIn?, if_pos ⟨n.minValue_le_toInt, n.toInt_le⟩]
  simp

lemma uint64?_toNat (n : UInt64) : uint64? (.int n.toNat) = some n := by
  have := n.toNat_lt
  rw [uint64?, intIn?, if_pos ⟨by omega, by simp [UInt64.size]; omega⟩]
  simp

namespace CommitRecord

lemma ofValue?_toValue (c : CommitRecord) : ofValue? c.toValue = some c := by
  simp only [ofValue?, Option.bind_eq_bind]
  refine Option.bind_eq_some_iff.2 ⟨_, rfl, ?_⟩
  refine Option.bind_eq_some_iff.2 ⟨c.id, required?_of_lookup rfl rfl, ?_⟩
  refine Option.bind_eq_some_iff.2 ⟨c.message, required?_of_lookup rfl rfl, ?_⟩
  refine Option.bind_eq_some_iff.2 ⟨c.author, required?_of_lookup rfl rfl, ?_⟩
  exact Option.bind_eq_some_iff.2 ⟨c.seconds, required?_of_lookup rfl (int64?_toInt _), rfl⟩

lemma integral_toValue (c : CommitRecord) : c.toValue.Integral :=
  ⟨trivial, trivial, trivial, trivial, trivial⟩

end CommitRecord

namespace PullRequest

lemma ofValue?_toValue (r : PullRequest) : ofValue? r.toValue = some r := by
  have status : RequestStatus.ofValue? (.text r.status.text) = some r.status := by
    cases r.status <;> rfl
  simp only [ofValue?, Option.bind_eq_bind]
  refine Option.bind_eq_some_iff.2 ⟨_, rfl, ?_⟩
  refine Option.bind_eq_some_iff.2 ⟨r.id, required?_of_lookup rfl (uint64?_toNat _), ?_⟩
  refine Option.bind_eq_some_iff.2 ⟨r.source, required?_of_lookup rfl rfl, ?_⟩
  refine Option.bind_eq_some_iff.2 ⟨r.target, required?_of_lookup rfl rfl, ?_⟩
  refine Option.bind_eq_some_iff.2 ⟨r.title, required?_of_lookup rfl rfl, ?_⟩
  exact Option.bind_eq_some_iff.2 ⟨r.status, required?_of_lookup rfl status, rfl⟩

lemma integral_toValue (r : PullRequest) : r.toValue.Integral :=
  ⟨trivial, trivial, trivial, trivial, trivial, trivial⟩

end PullRequest

namespace Record

lemma ofValue?_toValue (r : Record) : ofValue? r.toValue = some r := by
  obtain ⟨name, url, defaultBranch, lastPushed, commits, requests, published⟩ := r
  have hcommits := list?_map CommitRecord.ofValue?_toValue commits
  have hrequests := list?_map PullRequest.ofValue?_toValue requests
  have hpublished : publishedOfValue? (.text (if published then "PUBLISHED" else "UNPUBLISHED")) =
      some published := by
    cases published <;> rfl
  simp only [ofValue?, Option.bind_eq_bind]
  refine Option.bind_eq_some_iff.2 ⟨_, rfl, ?_⟩
  refine Option.bind_eq_some_iff.2 ⟨name, required?_of_lookup rfl rfl, ?_⟩
  refine Option.bind_eq_some_iff.2 ⟨url, required?_of_lookup rfl rfl, ?_⟩
  refine Option.bind_eq_some_iff.2 ⟨defaultBranch, required?_of_lookup rfl rfl, ?_⟩
  refine Option.bind_eq_some_iff.2
    ⟨lastPushed, optional?_of_lookup rfl (by cases lastPushed <;> rfl), ?_⟩
  refine Option.bind_eq_some_iff.2 ⟨commits, required?_of_lookup rfl hcommits, ?_⟩
  refine Option.bind_eq_some_iff.2 ⟨requests, optional?_of_lookup rfl hrequests, ?_⟩
  exact Option.bind_eq_some_iff.2 ⟨published, optional?_of_lookup rfl hpublished, rfl⟩

lemma integral_toValue (r : Record) : r.toValue.Integral := by
  refine ⟨trivial, trivial, trivial, ?_, ?_, ?_, trivial, trivial⟩
  · cases r.lastPushed <;> trivial
  · exact integralItems_map CommitRecord.integral_toValue r.commits
  · exact integralItems_map PullRequest.integral_toValue r.requests

lemma ofDocument?_document (r : Record) : ofDocument? r.document = some r := by
  rw [ofDocument?, document, Json.ofText?_toLine r.integral_toValue, Option.bind_some,
    ofValue?_toValue]

end Record

/-! ### Stores -/

@[simp] lemma Medium.load_save (m : Medium) (record : Record) :
    (m.save record).load = .ok (some record) := by
  cases m with
  | memory old => rfl
  | document old => rw [Medium.save, Medium.load, Record.ofDocument?_document]

@[simp] lemma Medium.load_clear (m : Medium) : m.clear.load = .ok none := by
  cases m <;> rfl

end GitTutor
