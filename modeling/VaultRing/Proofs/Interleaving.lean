import VaultRing.Proofs.SharedOperation

namespace VaultRing

section Given

/-- The same text, or two ids that have been given after the first `drawn`. -/
def SameId (drawn : Nat) (a b : String) : Prop :=
  a = b ∨ ∃ m n, drawn < m ∧ drawn < n ∧ a = MemoryVault.idText m ∧ b = MemoryVault.idText n

structure Field.SameButId (drawn : Nat) (f g : Field) : Prop where
  id : SameId drawn f.id g.id
  others : g = { f with id := g.id }

structure VaultItem.WrittenAlike (drawn : Nat) (now now' : Timestamp) (i j : VaultItem) : Prop where
  id : SameId drawn i.id j.id
  fields : List.Forall₂ (Field.SameButId drawn) i.fields j.fields
  time : i.updatedAt = some now
  others : j = { i with id := j.id, fields := j.fields, updatedAt := some now' }

def VaultItem.SameButGiven (drawn : Nat) (now now' : Timestamp) (i j : VaultItem) : Prop :=
  i = j ∨ WrittenAlike drawn now now' i j

variable {drawn drawn' : Nat} {now now' : Timestamp}

theorem VaultItem.SameButGiven.title {i j : VaultItem} (h : i.SameButGiven drawn now now' j) :
    j.title = i.title := by
  rcases h with rfl | h
  · rfl
  · rw [h.others]

theorem VaultItem.SameButGiven.titled {items items' : List VaultItem}
    (h : List.Forall₂ (VaultItem.SameButGiven drawn now now') items items') (title : String) :
    List.Forall₂ (VaultItem.SameButGiven drawn now now') (items.filter (·.title == title))
      (items'.filter (·.title == title)) := by
  refine List.rel_filter (fun i j hij => ?_) h
  change (i.title == title) = true ↔ (j.title == title) = true
  rw [hij.title]

theorem Scope.created_sameButGiven (scope : Scope) (title value : String) (h : drawn ≤ drawn') :
    (scope.created drawn' now title value).SameButGiven drawn now now'
      (scope.created drawn now' title value) := by
  refine .inr ⟨.inr ⟨drawn' + 1, drawn + 1, by omega, by omega, rfl, rfl⟩, ?_, rfl, rfl⟩
  exact .cons ⟨.inr ⟨drawn' + 2, drawn + 2, by omega, by omega, rfl, rfl⟩, rfl⟩ .nil

theorem MemoryVault.withId_sameButId (f : Field) (h : drawn ≤ drawn') :
    (withId drawn' f).SameButId drawn (withId drawn f) := by
  unfold withId
  split
  · exact ⟨.inr ⟨drawn' + 1, drawn + 1, by omega, by omega, rfl, rfl⟩, rfl⟩
  · exact ⟨.inl rfl, rfl⟩

theorem Transport.written_sameButGiven (t : Transport) (scope : Scope) (m : ManagedItem)
    (value : String) (h : drawn ≤ drawn') :
    (t.written scope drawn' (m.revalued now value)).SameButGiven drawn now now'
      (t.written scope drawn (m.revalued now' value)) := by
  refine .inr ⟨.inl rfl, .cons (MemoryVault.withId_sameButId _ h) .nil, rfl, ?_⟩
  cases t <;> rfl

/-- Later, and when more ids have been given, an operation leaves the same items but for the times
and the ids. -/
theorem Keyring.itemsAfter_sameButGiven (k : Keyring) (v : MemoryVault) (h : v.drawn ≤ drawn')
    (operation : Operation) :
    List.Forall₂ (VaultItem.SameButGiven v.drawn now now')
      (k.itemsAfter { v with drawn := drawn' } now operation)
      (k.itemsAfter v now' operation) := by
  have hsame (items : List VaultItem) :
      List.Forall₂ (VaultItem.SameButGiven v.drawn now now') items items :=
    List.forall₂_same.mpr fun _ _ => .inl rfl
  have hl (key : String) : ({ v with drawn := drawn' } : MemoryVault).lookup k.scope key =
    v.lookup k.scope key := rfl
  cases operation with
  | set item =>
    simp only [itemsAfter, hl]
    split
    · rename_i m _
      unfold MemoryVault.rewrite
      rw [List.forall₂_map_left_iff, List.forall₂_map_right_iff, List.forall₂_same]
      intro i _
      change VaultItem.SameButGiven _ _ _
        (if MemoryVault.place i = (k.scope.vaultId, m.id) then _ else i)
        (if MemoryVault.place i = (k.scope.vaultId, m.id) then _ else i)
      split
      · exact Transport.written_sameButGiven _ _ m _ h
      · exact .inl rfl
    · exact List.rel_append (hsame v.items) (.cons (Scope.created_sameButGiven _ _ _ h) .nil)
    · exact hsame v.items
  | remove key =>
    simp only [itemsAfter, hl]
    exact hsame _
  | get key | has key | getMetadata key | keys => exact hsame v.items

end Given

structure Job where
  keyring : Keyring
  operation : Operation
  key : String
  keyed : operation.key? = some key

namespace Job

def title (job : Job) : String := job.keyring.scope.encodeTitle job.key

def program (job : Job) : Program (Except KeyringError Answer) :=
  ExceptT.run (job.keyring.perform job.operation)

def alone (job : Job) (w : World) : Except KeyringError Answer × World := job.program.run w

def touch (job : Job) : Touch := job.operation.touch job.keyring.scope

def touchAll (jobs : List Job) : Touch where
  sets t := ∃ job ∈ jobs, job.touch.sets t
  removes t := ∃ job ∈ jobs, job.touch.removes t

def touchOthers (jobs : List Job) (job : Job) : Touch where
  sets t := t ≠ job.title ∧ (touchAll jobs).sets t
  removes t := t ≠ job.title ∧ (touchAll jobs).removes t

def rules (jobs : List Job) (job : Job) : Interference := (touchOthers jobs job).among job.touch

theorem of_sets {job : Job} {t : String} (h : job.touch.sets t) :
    t = job.title ∧ ∃ item, job.operation = .set item := by
  obtain ⟨keyring, operation, key, keyed⟩ := job
  cases operation with
  | set item =>
    obtain rfl := Option.some.inj keyed
    exact ⟨h, item, rfl⟩
  | get key | has key | getMetadata key | remove key | keys => exact h.elim

theorem of_removes {job : Job} {t : String} (h : job.touch.removes t) :
    t = job.title ∧ job.operation = .remove job.key := by
  obtain ⟨keyring, operation, key, keyed⟩ := job
  cases operation with
  | remove key =>
    obtain rfl := Option.some.inj keyed
    exact ⟨h, rfl⟩
  | get key | has key | getMetadata key | set item | keys => exact h.elim

variable {jobs : List Job} {w w' : World} {job : Job}

theorem spares (ht : (jobs.map title).Nodup) (job : Job) :
    (touchOthers jobs job).Spares job.title where
  sets := fun h => h.1 rfl
  removes := fun h => h.1 rfl
  apart := by
    rintro t ⟨-, a, ha, hsets⟩ ⟨-, b, hb, hremoves⟩
    obtain ⟨hat, item, hset⟩ := of_sets hsets
    obtain ⟨hbt, hremove⟩ := of_removes hremoves
    obtain rfl : a = b := List.inj_on_of_nodup_map ht ha hb (hat.symm.trans hbt)
    rw [hset] at hremove
    cases hremove

theorem compatible (ht : (jobs.map title).Nodup) :
    Compatible jobs (rules jobs) (World.Changed (touchAll jobs)) where
  others := by
    intro m n a b hmn ha hb w w' h
    obtain ⟨hm, -⟩ := List.getElem?_eq_some_iff.mp ha
    have hne : a.title ≠ b.title := fun he => hmn <| by
      refine (List.getElem?_inj (by simpa using hm) ht).mp ?_
      rw [List.getElem?_map, List.getElem?_map, ha, hb, Option.map_some, Option.map_some, he]
    have hmem := List.mem_of_getElem? ha
    exact h.mono ⟨fun t hs => ⟨(of_sets hs).1 ▸ hne, a, hmem, hs⟩,
      fun t hr => ⟨(of_removes hr).1 ▸ hne, a, hmem, hr⟩⟩
  clock := fun _ w now => .at_clock w now
  refl := .refl
  trans := .trans
  totalClock := .at_clock
  totalOwn := fun a ha _ _ h => h.mono ⟨fun _ hs => ⟨a, ha, hs⟩, fun _ hr => ⟨a, ha, hr⟩⟩

/-- How a job that was begun in `w` has ended among others, with the result `r`, when they have
left `w'` behind. -/
structure EndsApart (jobs : List Job) (w : World) (job : Job) (r : Except KeyringError Answer)
    (w' : World) : Prop where
  answer : ∀ a, r = .ok a → (job.alone w).1 = .ok a
  items : ∀ a, r = .ok a → ∃ now,
    List.Forall₂ (VaultItem.SameButGiven w.vault.drawn now w.clock) (w'.vault.titled job.title)
      ((job.alone w).2.vault.titled job.title)
  untouched : ∀ e, r = .error e → w'.vault.titled job.title = w.vault.titled job.title
  gateway : ¬ job.keyring.transport.IsSdk → r = (job.alone w).1
  /-- An SDK client may miss an item that it has listed, when another job has removed it. -/
  lost : r ≠ (job.alone w).1 → ∃ other ∈ jobs, ∃ i ∈ w.vault.items,
    other.operation = .remove other.key ∧ other.title ≠ job.title ∧ i.title = other.title ∧
      i.vaultId = job.keyring.scope.vaultId ∧
      r = .error (.transport (Context.get i.id i.vaultId) (MemoryVault.notFound i.id))

theorem endsApart_of_fate {r : Except KeyringError Answer}
    (hu : job.keyring.transport.Undisturbed w.conditions) (hd : w.vault.Distinct)
    (h : job.keyring.Fate (touchOthers jobs job) w job.operation job.title r w') :
    EndsApart jobs w job r w' := by
  have hout := Keyring.perform_hasOutcome hu.served hd job.operation
  have hanswer : (job.alone w).1 = job.keyring.answerFrom w.vault job.operation := hout.answer
  have hitems : (job.alone w).2.vault.items =
      job.keyring.itemsAfter w.vault w.clock job.operation := hout.items
  have hyields := h.answer
  rw [← hanswer] at hyields
  constructor
  · rintro a rfl
    obtain hr | ⟨_, e, he, _⟩ := hyields
    · exact hr.symm
    · cases he
  · intro a ha
    obtain ⟨drawn, now, hle, hi⟩ := h.done a ha
    refine ⟨now, ?_⟩
    rw [hi, MemoryVault.titled, hitems]
    exact VaultItem.SameButGiven.titled (job.keyring.itemsAfter_sameButGiven w.vault hle _) _
  · exact h.failed
  · exact fun hsdk => hyields.resolve_right fun h => hsdk h.1
  · intro hne
    obtain ⟨_, e, rfl, i, hi, hv, ⟨hti, other, hother, hremoves⟩, rfl⟩ := hyields.resolve_left hne
    obtain ⟨ht, hremove⟩ := of_removes hremoves
    exact ⟨other, hother, i, hi, hremove, ht ▸ hti, ht, hv, by rw [hv]⟩

/-- Jobs on items with different titles, however they take turns. -/
theorem runSlices_keep_apart (jobs : List Job) (w : World) (slices : List Slice)
    (hs : w.vault.Sound)
    (hwork : ∀ job ∈ jobs, job.keyring.transport.Undisturbed w.conditions)
    (ht : (jobs.map title).Nodup) :
    (∀ (n : Nat) (job : Job) (r : Except KeyringError Answer), jobs[n]? = some job →
      (runSlices slices (jobs.map program) w).1[n]? = some (.done r) →
      EndsApart jobs w job r (runSlices slices (jobs.map program) w).2) ∧
    w.Changed (touchAll jobs) (runSlices slices (jobs.map program) w).2 := by
  have hstart : Underway (rules jobs)
      (fun job => job.keyring.Fate (touchOthers jobs job) w job.operation job.title) jobs
      (jobs.map program) w := by
    refine ⟨List.length_map program, fun {n job p} hjob hp => ?_⟩
    rw [List.getElem?_map, hjob] at hp
    obtain rfl := Option.some.inj hp
    exact Keyring.perform_withstands (hwork job (List.mem_of_getElem? hjob)) hs job.keyed
      (spares ht job)
  obtain ⟨hend, htotal⟩ := runSlices_underway (compatible ht) slices hstart
  refine ⟨fun n job r hjob hr => ?_, htotal⟩
  exact endsApart_of_fate (hwork job (List.mem_of_getElem? hjob)) hs.distinct
    (hend.withstands hjob hr).result

/-- Jobs of one scope on different keys, through any transports, however their requests take turns
and whatever the clock shows. -/
theorem interleaved_jobs_keep_apart (scope : Scope) (jobs : List Job) (w : World)
    (slices : List Slice) (hd : w.vault.Distinct) (hf : w.vault.Fresh)
    (hscope : ∀ job ∈ jobs, job.keyring.scope = scope)
    (hwork : ∀ job ∈ jobs, job.keyring.transport.Undisturbed w.conditions)
    (hkeys : (jobs.map key).Nodup) :
    (∀ (n : Nat) (job : Job) (r : Except KeyringError Answer), jobs[n]? = some job →
      (runSlices slices (jobs.map program) w).1[n]? = some (.done r) →
      EndsApart jobs w job r (runSlices slices (jobs.map program) w).2) ∧
    (runSlices slices (jobs.map program) w).2.vault.items.filter
        (fun i => i.title ∉ jobs.map title) =
      w.vault.items.filter (fun i => i.title ∉ jobs.map title) := by
  have htitles : jobs.map title = (jobs.map key).map scope.encodeTitle := by
    rw [List.map_map]
    exact List.map_congr_left fun job hj => by rw [title, hscope job hj]; rfl
  have ht : (jobs.map title).Nodup := htitles ▸ hkeys.map scope.encodeTitle_injective
  obtain ⟨hjobs, hchanged⟩ := runSlices_keep_apart jobs w slices ⟨hd, hf⟩ hwork ht
  refine ⟨hjobs, hchanged.kept (fun t => decide (t ∉ jobs.map title)) fun t hp => ?_⟩
  have hnot : t ∉ jobs.map title := of_decide_eq_true hp
  constructor
  · rintro ⟨job, hj, hsets⟩
    exact hnot ((of_sets hsets).1 ▸ List.mem_map_of_mem hj)
  · rintro ⟨job, hj, hremoves⟩
    exact hnot ((of_removes hremoves).1 ▸ List.mem_map_of_mem hj)

section Crossing

def crossingWorld : World := World.ofVault MemoryVault.sample Timestamp.noon

def crossingJobs : List Job :=
  [⟨⟨Scope.sample, .standard .standard Duration.zero, .propagate⟩, .get "a", "a", rfl⟩,
    ⟨.sampleConnect, .remove "b", "b", rfl⟩,
    ⟨.sampleConnect, .set ⟨"c", [3]⟩, "c", rfl⟩]

/-- After the SDK client has listed both items, the one that it is not after is removed. -/
def crossingSlices : List Slice :=
  [0, 0, 1, 1, 1, 1, 0, 2, 0, 2, 2].map fun program => ⟨program, Timestamp.noon⟩

def crossingEnd : List (Program (Except KeyringError Answer)) × World :=
  runSlices crossingSlices (crossingJobs.map program) crossingWorld

/-- The lookup of `a` misses `b`; the other two jobs are done as if alone. -/
theorem crossing_jobs_keep_apart :
    MemoryVault.sample.Distinct ∧ MemoryVault.sample.Fresh ∧
      (∀ job ∈ crossingJobs, job.keyring.scope = Scope.sample) ∧
      (∀ job ∈ crossingJobs, job.keyring.transport.Undisturbed crossingWorld.conditions) ∧
      (crossingJobs.map key).Nodup ∧
      crossingEnd.1 =
        [.done (.error (.transport (Context.get "mock-3" "v") (MemoryVault.notFound "mock-3"))),
          .done (.ok .done), .done (.ok .done)] ∧
      (∀ (n : Nat) (job : Job) (r : Except KeyringError Answer), crossingJobs[n]? = some job →
        crossingEnd.1[n]? = some (.done r) →
        EndsApart crossingJobs crossingWorld job r crossingEnd.2) ∧
      crossingEnd.2.vault.items.filter (fun i => i.title ∉ crossingJobs.map title) =
        MemoryVault.sample.items.filter (fun i => i.title ∉ crossingJobs.map title) := by
  have hd : MemoryVault.sample.Distinct := by decide
  have hscope : ∀ job ∈ crossingJobs, job.keyring.scope = Scope.sample := by
    simp [crossingJobs, Keyring.sampleConnect]
  have hwork : ∀ job ∈ crossingJobs,
      job.keyring.transport.Undisturbed crossingWorld.conditions := by
    simp only [crossingJobs, List.forall_mem_cons]
    exact ⟨⟨rfl, rfl, trivial⟩, ⟨rfl, rfl, trivial⟩, ⟨rfl, rfl, trivial⟩, fun _ h => nomatch h⟩
  have hkeys : (crossingJobs.map key).Nodup := by decide
  exact ⟨hd, MemoryVault.sample_fresh, hscope, hwork, hkeys, rfl,
    interleaved_jobs_keep_apart Scope.sample crossingJobs crossingWorld crossingSlices hd
      MemoryVault.sample_fresh hscope hwork hkeys⟩

end Crossing

end Job

end VaultRing
