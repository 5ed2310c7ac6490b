import TokenCatalog.Proofs.Refresh.Writing
import Mathlib.Algebra.Ring.Nat
import Mathlib.Data.List.Nodup

namespace TokenCatalog

/-!
# Fanning out — every list on its own, and all of them written together

* `FanOut.Run` — the tasks of a manifest's entries as they are polled and answered, in any order;
* `Manifest.Entry.brings` — what the task of an entry brings, by the answers it was given and by
  nothing else;
* `FanOut.arrived_perm` — what has arrived in a run is what its tasks bring, in some order;
* `FanOut.Outcome`, `FanOut.outcome_of_run` — what is written in the end;
* `FanOut.isolation` — the whole account of a run: barrier, outcome, independence of the order.
-/

/-! ### What a task brings -/

namespace Manifest.Entry

/-- The URLs that the task of an entry asks, in order. -/
def urls (e : Entry) : List String := e.sourceUrl :: e.schema?.toList

/-- The etag and the body that the answers to a task come to. -/
def fetched? (v : Validator) (e : Entry) (answers : List Answer) : Option (String × Bytes) :=
  match e.schema?, answers with
  | none, [.ok ⟨some body, etag⟩] => some (etag, body)
  | some _, [.ok ⟨some body, etag⟩, .ok ⟨some schema, _⟩] =>
    match v.validate body schema with
    | .ok () => some (etag, body)
    | .error _ => none
  | _, _ => none

/-- What the task of an entry brings, by the answers it was given and when. -/
def brings (v : Validator) (e : Entry) (replies : List (Answer × Moment)) : Option Content :=
  (e.fetched? v (replies.map (·.1))).map fun (etag, body) =>
    { sourceUrl := e.sourceUrl, etag, body, fetchedAt := (replies.getLast?.map (·.2)).getD default }

/-- Of the answers' times only the time of fetching depends. -/
theorem brings_document (v : Validator) (e : Entry) (replies : List (Answer × Moment)) :
    (e.brings v replies).map Content.document =
      (e.fetched? v (replies.map (·.1))).map fun (etag, body) => ⟨e.sourceUrl, etag, body⟩ := by
  rw [brings, Option.map_map]
  rfl

section Brings

variable {v : Validator} {e : Entry} {body : Bytes} {etag : String} {now then_ : Moment}

/-- Without answers an entry brings nothing. -/
theorem brings_nil : e.brings v [] = none := by
  simp [brings, fetched?]

/-- An answer without a body brings nothing. -/
theorem brings_missing {a : Answer} (h : ∀ body etag, a ≠ .ok ⟨some body, etag⟩) :
    e.brings v [(a, now)] = none := by
  rw [brings, List.map_singleton, fetched?.eq_def]
  split
  · rename_i body etag _ ha
    cases ha
    exact absurd rfl (h body etag)
  · rename_i ha
    cases ha
  · rfl

/-- An entry without a schema brings any body. -/
theorem brings_unchecked (h : e.schema? = none) :
    e.brings v [(.ok ⟨some body, etag⟩, now)] =
      some { sourceUrl := e.sourceUrl, etag, body, fetchedAt := now } := by
  simp [brings, fetched?, h]

/-- An entry with a schema brings nothing before its schema has come. -/
theorem brings_of_schema {url : String} {reply : Answer × Moment} (h : e.schema? = some url) :
    e.brings v [reply] = none := by
  simp [brings, fetched?, h]

/-- A body its schema accepts is brought. -/
theorem brings_accepted {url etag' : String} {schema : Bytes} (h : e.schema? = some url)
    (hv : v.validate body schema = .ok ()) :
    e.brings v [(.ok ⟨some body, etag⟩, then_), (.ok ⟨some schema, etag'⟩, now)] =
      some { sourceUrl := e.sourceUrl, etag, body, fetchedAt := now } := by
  simp [brings, fetched?, h, hv]

/-- A body is not brought when its schema refuses it, or does not come. -/
theorem brings_refused {a : Answer}
    (h : ∀ schema etag', a = .ok ⟨some schema, etag'⟩ → v.validate body schema ≠ .ok ()) :
    e.brings v [(.ok ⟨some body, etag⟩, then_), (a, now)] = none := by
  rw [brings, fetched?.eq_def]
  split
  · rename_i ha
    cases ha
  · rename_i body' etag' schema etag'' _ ha
    cases ha
    split
    · rename_i hv
      exact absurd hv (h schema etag'' rfl)
    · rfl
  · rfl

end Brings

end Manifest.Entry

namespace FanOut

open Manifest (Entry)

/-! ### Runs -/

/-- What can happen to a task. -/
inductive Move where
  /-- It asks for its list, and finds a world in which to look for an etag. -/
  | poll (index : Nat) (w : World)
  /-- It is given the answer it waits for. -/
  | answer (index : Nat) (a : Answer) (now : Moment)

/-- The tasks of a manifest's entries after some moves, and the requests they have issued. -/
inductive Run (v : Validator) (es : List Entry) :
    List Move → List (Nat × Request) → FanOut → Prop
  | begin : Run v es [] [] (.ofEntries es)
  | poll {ms : List Move} {rs : List (Nat × Request)} {f f' : FanOut} {i : Nat} {w : World}
      {r : Request} (run : Run v es ms rs f) (polled : f.poll? i w = some (f', r)) :
      Run v es (ms ++ [.poll i w]) (rs ++ [(i, r)]) f'
  | answer {ms : List Move} {rs : List (Nat × Request)} {f f' : FanOut} {i : Nat} {a : Answer}
      {now : Moment} {r : Option Request} (run : Run v es ms rs f)
      (answered : f.answer? i v now a = some (f', r)) :
      Run v es (ms ++ [.answer i a now]) (rs ++ r.toList.map (i, ·)) f'

/-- The answer that a move gives to a task. -/
def Move.reply? (i : Nat) : Move → Option (Answer × Moment)
  | .poll .. => none
  | .answer j a now => if j = i then some (a, now) else none

/-- The answers that a task was given. -/
def replies (i : Nat) (ms : List Move) : List (Answer × Moment) := ms.filterMap (Move.reply? i)

/-- The requests that a task has issued. -/
def asked (i : Nat) (rs : List (Nat × Request)) : List Request :=
  (rs.filter (·.1 = i)).map (·.2)

/-- One move more adds the answer it gives to that task. -/
theorem replies_snoc (i : Nat) (ms : List Move) (m : Move) :
    replies i (ms ++ [m]) = replies i ms ++ (m.reply? i).toList := by
  rw [replies, List.filterMap_append, ← replies]
  cases h : m.reply? i <;> simp [h]

/-- What a task asked for is found piece by piece. -/
theorem asked_append (i : Nat) (rs rs' : List (Nat × Request)) :
    asked i (rs ++ rs') = asked i rs ++ asked i rs' := by
  simp [asked]

/-- What one task asks for is asked by that task only. -/
theorem asked_map (i j : Nat) (rs : List Request) :
    asked i (rs.map (j, ·)) = if j = i then rs else [] := by
  unfold asked
  by_cases h : j = i
  · simp [h, List.filter_map, Function.comp_def]
  · simp [h, List.filter_map, Function.comp_def]

/-! ### What a move does -/

section Moves

variable {f f' : FanOut} {v : Validator} {i j : Nat} {a : Answer} {now : Moment}

/-- A task that is polled was ready, and asks for its list with the etag of the cached copy. -/
theorem poll?_eq_some {w : World} {r : Request} (h : f.poll? i w = some (f', r)) :
    ∃ e, f.tasks[i]? = some ⟨e, .ready⟩ ∧ f' = f.setStage i .fetchingList ∧
      r = ⟨e.sourceUrl, w.etagOf e.id⟩ := by
  unfold poll? at h
  split at h
  · rename_i e htask
    cases h
    exact ⟨e, htask, rfl, rfl⟩
  · cases h

/-- What an answer can lead to. -/
inductive Answered (f : FanOut) (i : Nat) (v : Validator) (now : Moment) :
    Answer → FanOut → Option Request → Prop
  /-- A body has come, and its schema is asked for. -/
  | asks {e : Entry} {url etag : String} {body : Bytes}
      (task : f.tasks[i]? = some ⟨e, .fetchingList⟩) (schema : e.schema? = some url) :
      Answered f i v now (.ok ⟨some body, etag⟩) (f.setStage i (.fetchingSchema body etag))
        (some ⟨url, ""⟩)
  /-- A body has come that needs no schema. -/
  | unchecked {e : Entry} {etag : String} {body : Bytes}
      (task : f.tasks[i]? = some ⟨e, .fetchingList⟩) (schema : e.schema? = none) :
      Answered f i v now (.ok ⟨some body, etag⟩) (f.deliver i e body etag now) none
  /-- No body has come. -/
  | missing {e : Entry} {a : Answer}
      (task : f.tasks[i]? = some ⟨e, .fetchingList⟩)
      (missing : ∀ body etag, a ≠ .ok ⟨some body, etag⟩) :
      Answered f i v now a (f.setStage i .finished) none
  /-- The schema accepts the body. -/
  | accepted {e : Entry} {etag etag' : String} {body schema : Bytes}
      (task : f.tasks[i]? = some ⟨e, .fetchingSchema body etag⟩)
      (valid : v.validate body schema = .ok ()) :
      Answered f i v now (.ok ⟨some schema, etag'⟩) (f.deliver i e body etag now) none
  /-- The schema has not come, or it refuses the body. -/
  | refused {e : Entry} {etag : String} {body : Bytes} {a : Answer}
      (task : f.tasks[i]? = some ⟨e, .fetchingSchema body etag⟩)
      (refused : ∀ schema etag', a = .ok ⟨some schema, etag'⟩ → v.validate body schema ≠ .ok ()) :
      Answered f i v now a (f.setStage i .finished) none

/-- An answer is one of the answers a task can be given. -/
theorem answered_of_answer? {r : Option Request} (h : f.answer? i v now a = some (f', r)) :
    Answered f i v now a f' r := by
  unfold answer? at h
  split at h
  · rename_i e htask
    -- The answer to a request for the list: a body, with or without a schema to check, or none.
    split at h
    · split at h <;> cases h
      · exact .asks htask ‹_›
      · exact .unchecked htask ‹_›
    · rename_i hmissing
      cases h
      exact .missing htask hmissing
  · rename_i e body etag htask
    -- The answer to a request for the schema: it accepts the body, refuses it, or does not come.
    split at h
    · rename_i schema etag'
      split at h <;> cases h
      · exact .accepted htask ‹_›
      · rename_i hinvalid
        refine .refused htask fun schema' etag'' ha => ?_
        cases ha
        rw [hinvalid]
        exact nofun
    · rename_i hmissing
      cases h
      exact .refused htask fun schema etag' ha => absurd ha (hmissing schema etag')
  · cases h

/-- Moving one task leaves the others where they are. -/
theorem tasks_setStage (f : FanOut) (i j : Nat) (s : Stage) :
    (f.setStage i s).tasks[j]? =
      if i = j then f.tasks[j]?.map ({ · with stage := s }) else f.tasks[j]? := by
  rw [setStage, List.getElem?_modify]
  by_cases h : i = j <;> simp [h]

/-- Moving a task adds none. -/
@[simp] theorem length_setStage (f : FanOut) (i : Nat) (s : Stage) :
    (f.setStage i s).tasks.length = f.tasks.length :=
  List.length_modify ..

/-- A task goes on as long as it has not finished. -/
theorem exists_move {e : Entry} {s : Stage} (htask : f.tasks[i]? = some ⟨e, s⟩)
    (hs : s ≠ .finished) :
    (∀ w, (f.poll? i w).isSome) ∨ ∀ v now a, (f.answer? i v now a).isSome := by
  cases s with
  | ready => exact .inl fun w => by rw [poll?, htask]; rfl
  -- A task that waits takes any answer.
  | fetchingList =>
    refine .inr fun v now a => ?_
    simp only [answer?, htask]
    split
    · split <;> rfl
    · rfl
  | fetchingSchema body etag =>
    refine .inr fun v now a => ?_
    simp only [answer?, htask]
    split
    · split <;> rfl
    · rfl
  | finished => exact absurd rfl hs

end Moves

/-! ### What a run keeps -/

/-- What a task in a stage has been answered, and which URLs it has asked. -/
def History (e : Entry) : Stage → List (Answer × Moment) → List String → Prop
  | .ready, replies, asked => replies = [] ∧ asked = []
  | .fetchingList, replies, asked => replies = [] ∧ asked = [e.sourceUrl]
  | .fetchingSchema body etag, replies, asked => ∃ url now, e.schema? = some url ∧
      replies = [(.ok ⟨some body, etag⟩, now)] ∧ asked = [e.sourceUrl, url]
  | .finished, replies, asked =>
      asked <+: e.urls ∧ replies.length = asked.length ∧ replies ≠ []

/-- What the tasks bring, in the order of their entries. -/
def brought (v : Validator) (es : List Entry) (ms : List Move) : List (String × Content) :=
  es.zipIdx.filterMap fun (e, i) => (e.brings v (replies i ms)).map (e.id, ·)

/-- What holds of the tasks at every point of a run. -/
structure Sound (v : Validator) (es : List Entry) (ms : List Move)
    (rs : List (Nat × Request)) (f : FanOut) : Prop where
  length : f.tasks.length = es.length
  task : ∀ i e s, f.tasks[i]? = some ⟨e, s⟩ →
    es[i]? = some e ∧ History e s (replies i ms) ((asked i rs).map (·.url))
  /-- Nothing is lost, nothing comes twice, and nothing else comes. -/
  arrived : f.arrived.Perm (brought v es ms)

/-- Entries are told apart by their places. -/
theorem nodup_zipIdx (es : List Entry) : es.zipIdx.Nodup :=
  .of_map Prod.snd (by rw [List.zipIdx_map_snd]; exact List.nodup_range')

/-- A list of which one member comes to have an image has that image besides the others. -/
theorem filterMap_perm_append {α β : Type} [DecidableEq α] {g g' : α → Option β} {xs : List α}
    {x : α} {b : β} (hxs : xs.Nodup) (hx : x ∈ xs) (hg : g x = none) (hg' : g' x = some b)
    (hne : ∀ y ∈ xs, y ≠ x → g' y = g y) :
    (xs.filterMap g').Perm (xs.filterMap g ++ [b]) := by
  have hsplit := List.perm_cons_erase hx
  have hrest : (xs.erase x).filterMap g' = (xs.erase x).filterMap g := by
    refine List.filterMap_congr fun y hy => ?_
    obtain ⟨hyx, hy⟩ := hxs.mem_erase_iff.1 hy
    exact hne y hy hyx
  calc (xs.filterMap g').Perm ((x :: xs.erase x).filterMap g') := hsplit.filterMap g'
    _ = b :: (x :: xs.erase x).filterMap g := by
      rw [List.filterMap_cons_some hg', hrest, List.filterMap_cons_none hg]
    List.Perm _ (b :: xs.filterMap g) := (hsplit.filterMap g).symm.cons b
    List.Perm _ (xs.filterMap g ++ [b]) := (List.perm_append_singleton b _).symm

section Steps

variable {v : Validator} {es : List Entry} {ms : List Move} {rs : List (Nat × Request)}
  {f f' : FanOut} {i : Nat} {e : Entry} {m : Move} {s s' : Stage}

/-- Every entry has its task. -/
theorem Sound.exists_task (h : Sound v es ms rs f) (he : es[i]? = some e) :
    ∃ s, f.tasks[i]? = some ⟨e, s⟩ ∧ History e s (replies i ms) ((asked i rs).map (·.url)) := by
  have hi : i < f.tasks.length := h.length ▸ (List.getElem?_eq_some_iff.1 he).1
  obtain ⟨⟨e', s⟩, ht⟩ : ∃ t, f.tasks[i]? = some t := ⟨_, List.getElem?_eq_getElem hi⟩
  obtain ⟨he', hhist⟩ := h.task i e' s ht
  cases he.symm.trans he'
  exact ⟨s, ht, hhist⟩

/-- A move that concerns one task, and leaves it with a history. -/
theorem Sound.move (new : List Request) {arrived : List (String × Content)}
    (h : Sound v es ms rs f) (htask : f.tasks[i]? = some ⟨e, s⟩)
    (hm : ∀ j, j ≠ i → m.reply? j = none)
    (hhist : History e s' (replies i ms ++ (m.reply? i).toList)
      ((asked i rs).map (·.url) ++ new.map (·.url)))
    (harrived : arrived.Perm (brought v es (ms ++ [m]))) :
    Sound v es (ms ++ [m]) (rs ++ new.map (i, ·)) { f.setStage i s' with arrived } := by
  refine ⟨by rw [← h.length]; exact length_setStage f i s', fun j e' s'' hj => ?_, harrived⟩
  rw [tasks_setStage] at hj
  rw [replies_snoc, asked_append, asked_map]
  -- The history of the task is longer by this move, that of any other is not.
  by_cases hij : i = j
  · subst hij
    rw [if_pos rfl, htask] at hj
    cases hj
    rw [if_pos rfl, List.map_append]
    exact ⟨(h.task i e s htask).1, hhist⟩
  · rw [if_neg hij] at hj
    rw [if_neg hij, hm j (Ne.symm hij), List.append_nil]
    simpa using h.task j e' s'' hj

/-- A move that changes nothing for its own task brings nothing. -/
theorem brought_snoc (he : es[i]? = some e) (hm : ∀ j, j ≠ i → m.reply? j = none)
    (hkept : e.brings v (replies i ms ++ (m.reply? i).toList) = e.brings v (replies i ms)) :
    brought v es (ms ++ [m]) = brought v es ms := by
  refine List.filterMap_congr fun ⟨e', j⟩ hj => ?_
  rw [List.mk_mem_zipIdx_iff_getElem?] at hj
  show (e'.brings v (replies j (ms ++ [m]))).map _ = (e'.brings v (replies j ms)).map _
  rw [replies_snoc]
  by_cases hji : j = i
  · subst hji
    cases he.symm.trans hj
    rw [hkept]
  · rw [hm j hji]
    simp

/-- A move that completes an entry brings that entry's copy, and no other. -/
theorem brought_snoc_perm {c : Content} (he : es[i]? = some e)
    (hm : ∀ j, j ≠ i → m.reply? j = none) (hold : e.brings v (replies i ms) = none)
    (hnew : e.brings v (replies i ms ++ (m.reply? i).toList) = some c) :
    (brought v es (ms ++ [m])).Perm (brought v es ms ++ [(e.id, c)]) := by
  refine filterMap_perm_append (nodup_zipIdx es) (List.mk_mem_zipIdx_iff_getElem?.2 he) ?_ ?_ ?_
  · simp [hold]
  · simp [replies_snoc, hnew]
  · rintro ⟨e', j⟩ hj hne
    have hji : j ≠ i := by
      rintro rfl
      cases he.symm.trans (List.mk_mem_zipIdx_iff_getElem?.1 hj)
      exact hne rfl
    simp [replies_snoc, hm j hji]

/-- A move that brings nothing. -/
theorem Sound.idle (new : List Request) (h : Sound v es ms rs f)
    (htask : f.tasks[i]? = some ⟨e, s⟩) (hm : ∀ j, j ≠ i → m.reply? j = none)
    (hhist : History e s' (replies i ms ++ (m.reply? i).toList)
      ((asked i rs).map (·.url) ++ new.map (·.url)))
    (hkept : e.brings v (replies i ms ++ (m.reply? i).toList) = e.brings v (replies i ms)) :
    Sound v es (ms ++ [m]) (rs ++ new.map (i, ·)) (f.setStage i s') :=
  h.move new htask hm hhist (brought_snoc (h.task i e s htask).1 hm hkept ▸ h.arrived)

/-- A task that asks keeps the account. -/
theorem Sound.poll {w : World} {r : Request} (h : Sound v es ms rs f)
    (hp : f.poll? i w = some (f', r)) : Sound v es (ms ++ [.poll i w]) (rs ++ [(i, r)]) f' := by
  obtain ⟨e, htask, rfl, rfl⟩ := poll?_eq_some hp
  obtain ⟨hrps, hurls⟩ := (h.task i e .ready htask).2
  refine h.idle [⟨e.sourceUrl, w.etagOf e.id⟩] htask (fun _ _ => rfl) ?_ ?_
  · rw [hrps, hurls]
    exact ⟨rfl, rfl⟩
  · rw [hrps]
    rfl

/-- A task that is answered keeps the account. -/
theorem Sound.answer {a : Answer} {now : Moment} {r : Option Request} (h : Sound v es ms rs f)
    (ha : f.answer? i v now a = some (f', r)) :
    Sound v es (ms ++ [.answer i a now]) (rs ++ r.toList.map (i, ·)) f' := by
  have hm : ∀ j, j ≠ i → (Move.answer i a now).reply? j = none := fun j hj =>
    if_neg (Ne.symm hj)
  have hi : (Move.answer i a now).reply? i = some (a, now) := if_pos rfl
  -- Only an answer that completes its entry adds to what has arrived.
  cases answered_of_answer? ha with
  | @asks e url etag body htask hschema =>
    obtain ⟨hrps, hurls⟩ := (h.task i e _ htask).2
    refine h.idle [⟨url, ""⟩] htask hm ?_ ?_
    · rw [hi, hrps, hurls]
      exact ⟨url, now, hschema, rfl, rfl⟩
    · rw [hi, hrps]
      exact (Entry.brings_of_schema hschema).trans Entry.brings_nil.symm
  | @unchecked e etag body htask hschema =>
    obtain ⟨he, hrps, hurls⟩ := h.task i e _ htask
    refine h.move [] htask hm ?_ ((h.arrived.append_right _).trans
      (brought_snoc_perm he hm ?_ ?_).symm)
    · rw [hi, hrps, hurls]
      exact ⟨List.prefix_append [e.sourceUrl] _, rfl, nofun⟩
    · rw [hrps]
      exact Entry.brings_nil
    · rw [hi, hrps]
      exact Entry.brings_unchecked hschema
  | @missing e a htask hmissing =>
    obtain ⟨hrps, hurls⟩ := (h.task i e _ htask).2
    refine h.idle [] htask hm ?_ ?_
    · rw [hi, hrps, hurls]
      exact ⟨List.prefix_append [e.sourceUrl] _, rfl, nofun⟩
    · rw [hi, hrps]
      exact (Entry.brings_missing hmissing).trans Entry.brings_nil.symm
  | @accepted e etag etag' body schema htask hvalid =>
    obtain ⟨he, url, then_, hschema, hrps, hurls⟩ := h.task i e _ htask
    refine h.move [] htask hm ?_ ((h.arrived.append_right _).trans
      (brought_snoc_perm he hm ?_ ?_).symm)
    · rw [hi, hrps, hurls]
      exact ⟨by simp [Entry.urls, hschema], rfl, nofun⟩
    · rw [hrps]
      exact Entry.brings_of_schema hschema
    · rw [hi, hrps]
      exact Entry.brings_accepted hschema hvalid
  | @refused e etag body a htask hrefused =>
    obtain ⟨-, url, then_, hschema, hrps, hurls⟩ := h.task i e _ htask
    refine h.idle [] htask hm ?_ ?_
    · rw [hi, hrps, hurls]
      exact ⟨by simp [Entry.urls, hschema], rfl, nofun⟩
    · rw [hi, hrps]
      exact (Entry.brings_refused hrefused).trans (Entry.brings_of_schema hschema).symm

/-- A fan-out that has just begun keeps the account. -/
theorem sound_ofEntries (v : Validator) (es : List Entry) :
    Sound v es [] [] (.ofEntries es) := by
  have hbrought : brought v es [] = [] := by
    refine List.filterMap_eq_nil_iff.2 fun ⟨e, i⟩ _ => ?_
    show (e.brings v []).map _ = none
    rw [Entry.brings_nil]
    rfl
  refine ⟨List.length_map _, fun i e s hi => ?_, hbrought ▸ .nil⟩
  obtain ⟨e', he', heq⟩ := List.getElem?_map ▸ hi |> Option.map_eq_some_iff.1
  cases heq
  exact ⟨he', rfl, rfl⟩

/-- **Every run is sound.** -/
theorem sound_of_run (h : Run v es ms rs f) : Sound v es ms rs f := by
  induction h with
  | begin => exact sound_ofEntries v es
  | poll _ hpolled ih => exact ih.poll hpolled
  | answer _ hanswered ih => exact ih.answer hanswered

end Steps

/-! ### What is written -/

section Outcomes

variable {v : Validator} {es : List Entry} {ms ms' : List Move} {rs : List (Nat × Request)}
  {f : FanOut} {w w' : World}

/-- What writing a run's contents into a world leaves, and how many lists it counts. -/
structure Outcome (v : Validator) (es : List Entry) (ms : List Move) (w : World)
    (left : World × Nat) : Prop where
  /-- A list is written if its task brings it and the write succeeds. -/
  fetched : ∀ (i : Nat) (e : Entry), es[i]? = some e → left.1.contents.get? e.id =
    if w.canWrite e.id = true then
      ((e.brings v (replies i ms)).map w.noted).or (w.contents.get? e.id)
    else w.contents.get? e.id
  others : ∀ id, id ∉ es.map (·.id) → left.1.contents.get? id = w.contents.get? id
  count : left.2 =
    es.zipIdx.countP fun (e, i) => (e.brings v (replies i ms)).isSome && w.canWrite e.id

/-- When ids are distinct, an id names one entry. -/
theorem index_eq_of_id (hids : (es.map (·.id)).Nodup) {i j : Nat} {e e' : Entry}
    (he : es[i]? = some e) (he' : es[j]? = some e') (hid : e'.id = e.id) : j = i := by
  have hidx : (es.map (·.id))[j]? = (es.map (·.id))[i]? := by
    rw [List.getElem?_map, List.getElem?_map, he', he, Option.map_some, Option.map_some, hid]
  have hlt : j < (es.map (·.id)).length := by
    rw [List.length_map]
    exact (List.getElem?_eq_some_iff.1 he').1
  exact (List.getElem?_inj hlt hids).1 hidx

/-- Of several entries with distinct ids, one at most brings something under an id. -/
theorem filter_brought (hids : (es.map (·.id)).Nodup) {i : Nat} {e : Entry}
    (he : es[i]? = some e) :
    (brought v es ms).filter (·.1 = e.id) =
      (e.brings v (replies i ms)).toList.map (e.id, ·) := by
  rw [brought, List.filter_filterMap]
  have hmem : (e, i) ∈ es.zipIdx := List.mk_mem_zipIdx_iff_getElem?.2 he
  -- Any other entry has another id.
  have hother : ∀ y ∈ es.zipIdx, y ≠ (e, i) →
      (((y.1.brings v (replies y.2 ms)).map (y.1.id, ·)).filter (·.1 = e.id)) = none := by
    rintro ⟨e', j⟩ hj hne
    have hj' := List.mk_mem_zipIdx_iff_getElem?.1 hj
    have hid : e'.id ≠ e.id := fun hid => by
      cases index_eq_of_id hids he hj' hid
      cases he.symm.trans hj'
      exact hne rfl
    cases e'.brings v (replies j ms) <;> simp [Option.filter, hid]
  cases hc : e.brings v (replies i ms) with
  | none =>
    refine List.filterMap_eq_nil_iff.2 fun y hy => ?_
    by_cases hyx : y = (e, i)
    · subst hyx
      simp [hc]
    · exact hother y hy hyx
  | some c =>
    have hperm := filterMap_perm_append (g := fun _ => none) (b := (e.id, c)) (nodup_zipIdx es) hmem
      rfl (by simp [hc, Option.filter]) hother
    rw [List.filterMap_none, List.nil_append] at hperm
    exact List.perm_singleton.1 hperm

/-- Nothing is brought under an id no entry has. -/
theorem filter_brought_of_not_mem {id : String} (hid : id ∉ es.map (·.id)) :
    (brought v es ms).filter (·.1 = id) = [] := by
  rw [List.filter_eq_nil_iff]
  intro p hp
  obtain ⟨⟨e, i⟩, he, hc⟩ := List.mem_filterMap.1 hp
  obtain ⟨c, -, rfl⟩ := Option.map_eq_some_iff.1 hc
  have hmem : e ∈ es := List.mem_of_getElem? (List.mk_mem_zipIdx_iff_getElem?.1 he)
  simpa using fun h => hid (List.mem_map.2 ⟨e, hmem, h⟩)

/-- What is stored under an id is the copy that was brought for it, or what was there before. -/
theorem persist_get? (h : Sound v es ms rs f) {id : String} {c : Option Content}
    (hc : (brought v es ms).filter (·.1 = id) = c.toList.map (id, ·)) (w : World) :
    (f.persist w).1.contents.get? id =
      if w.canWrite id = true then (c.map w.noted).or (w.contents.get? id)
      else w.contents.get? id := by
  have hfilter : f.arrived.filter (·.1 = id) = c.toList.map (id, ·) := by
    have hperm := h.arrived.filter (·.1 = id)
    rw [hc] at hperm
    cases c with
    | none => exact hperm.eq_nil
    | some d => exact List.perm_singleton.1 hperm
  show (writeAll w f.arrived).contents.get? id = _
  rw [get?_writeAll, written_seen, hfilter]
  cases hw : w.canWrite id with
  | true => cases c <;> rfl
  | false => rfl

/-- **What a run leaves.** -/
theorem outcome_of_sound (hids : (es.map (·.id)).Nodup) (h : Sound v es ms rs f) (w : World) :
    Outcome v es ms w (f.persist w) where
  fetched i e he := persist_get? h (filter_brought hids he) w
  others id hid := by
    rw [persist_get? h (c := none) (filter_brought_of_not_mem hid) w]
    simp
  count := by
    show f.arrived.countP _ = _
    rw [h.arrived.countP_eq, brought, List.countP_filterMap]
    refine List.countP_congr fun ⟨e, i⟩ _ => ?_
    cases hc : e.brings v (replies i ms) <;> simp [hc]

/-- **Only the answers count.**  Two runs whose tasks were given the same answers count as many
    lists and leave the same contents but for the times of fetching, if they write into stores that
    hold the same and fail alike. -/
theorem Outcome.congr {left left' : World × Nat} (h : Outcome v es ms w left)
    (h' : Outcome v es ms' w' left')
    (hanswers : ∀ i, (replies i ms).map (·.1) = (replies i ms').map (·.1))
    (hwrite : ∀ id, w.canWrite id = w'.canWrite id)
    (hcontents : ∀ id,
      (w.contents.get? id).map Content.document = (w'.contents.get? id).map Content.document) :
    left.2 = left'.2 ∧ ∀ id, (left.1.contents.get? id).map Content.document =
      (left'.1.contents.get? id).map Content.document := by
  have hbrings : ∀ (e : Entry) i, (e.brings v (replies i ms)).map Content.document =
      (e.brings v (replies i ms')).map Content.document := fun e i => by
    rw [Entry.brings_document, Entry.brings_document, hanswers i]
  constructor
  · rw [h.count, h'.count]
    refine List.countP_congr fun ⟨e, i⟩ _ => ?_
    have hsome : (e.brings v (replies i ms)).isSome = (e.brings v (replies i ms')).isSome := by
      rw [← Option.isSome_map (f := Content.document), hbrings, Option.isSome_map]
    simp only [hsome, hwrite]
  · intro id
    by_cases hid : id ∈ es.map (·.id)
    · obtain ⟨e, he, rfl⟩ := List.mem_map.1 hid
      obtain ⟨i, hi⟩ := List.mem_iff_getElem?.1 he
      rw [h.fetched i e hi, h'.fetched i e hi, hwrite]
      split
      · rw [Option.map_or, Option.map_or, hcontents, Option.map_map, Option.map_map]
        -- The store's own time of fetching is not looked at.
        show ((e.brings v (replies i ms)).map Content.document).or _ =
          ((e.brings v (replies i ms')).map Content.document).or _
        rw [hbrings]
      · exact hcontents e.id
    · rw [h.others id hid, h'.others id hid]
      exact hcontents id

end Outcomes

/-! ### A worker that fans out -/

section Isolation

variable {v : Validator} {es : List Entry} {ms : List Move} {rs : List (Nat × Request)}
  {f : FanOut}

/-- How many moves a task still has before it. -/
def Stage.left : Stage → Nat
  | .ready => 3
  | .fetchingList => 2
  | .fetchingSchema .. => 1
  | .finished => 0

/-- Changing one summand changes the sum by as much. -/
theorem sum_modify {α : Type} {xs : List α} {i : Nat} {x : α} (hx : xs[i]? = some x)
    (g : α → α) (h : α → Nat) :
    ((xs.modify i g).map h).sum + h x = (xs.map h).sum + h (g x) := by
  induction xs generalizing i with
  | nil => cases hx
  | cons y ys ih =>
    cases i with
    | zero =>
      cases hx
      simp only [List.modify_zero_cons, List.map_cons, List.sum_cons]
      omega
    | succ i =>
      have hys := ih (List.getElem?_cons_succ ▸ hx)
      simp only [List.modify_succ_cons, List.map_cons, List.sum_cons]
      omega

/-- The moves that the tasks still have before them. -/
def left (f : FanOut) : Nat := (f.tasks.map (·.stage.left)).sum

/-- Moving a task changes what is left by what is left of that task. -/
theorem left_setStage {i : Nat} {e : Entry} {s : Stage} (s' : Stage)
    (htask : f.tasks[i]? = some ⟨e, s⟩) : (f.setStage i s').left + s.left = f.left + s'.left :=
  sum_modify htask ({ · with stage := s' }) (·.stage.left)

/-- Asking leaves less to do. -/
theorem left_lt_of_poll? {f' : FanOut} {i : Nat} {w : World} {r : Request}
    (h : f.poll? i w = some (f', r)) : f'.left < f.left := by
  obtain ⟨e, htask, rfl, -⟩ := poll?_eq_some h
  have hleft := left_setStage .fetchingList htask
  simp only [Stage.left] at hleft
  omega

/-- Answering leaves less to do. -/
theorem left_lt_of_answer? {f' : FanOut} {i : Nat} {now : Moment} {a : Answer} {r : Option Request}
    (h : f.answer? i v now a = some (f', r)) : f'.left < f.left := by
  cases answered_of_answer? h with
  | @asks _ _ etag body htask =>
    have hleft := left_setStage (.fetchingSchema body etag) htask
    simp only [Stage.left] at hleft
    omega
  | unchecked htask | accepted htask =>
    have hleft := left_setStage .finished htask
    simp only [Stage.left] at hleft
    show (setStage _ _ .finished).left < _
    omega
  | missing htask | refused htask =>
    have hleft := left_setStage .finished htask
    simp only [Stage.left] at hleft
    omega

/-- A run ends: every task has three moves at most. -/
theorem length_add_left_le (h : Run v es ms rs f) : ms.length + f.left ≤ 3 * es.length := by
  induction h with
  | begin =>
    have hthree : (ofEntries es).left = 3 * es.length := by
      simp [left, ofEntries, Function.comp_def, Stage.left, Nat.mul_comm]
    exact Nat.le_of_eq ((Nat.zero_add _).trans hthree)
  | poll _ hpolled ih =>
    have hleft := left_lt_of_poll? hpolled
    rw [List.length_append, List.length_singleton]
    omega
  | answer _ hanswered ih =>
    have hleft := left_lt_of_answer? hanswered
    rw [List.length_append, List.length_singleton]
    omega

/-- When all is finished every task is. -/
theorem task_of_isFinished {i : Nat} {t : Task} (hfinished : f.isFinished = true)
    (ht : f.tasks[i]? = some t) : t.stage = .finished := by
  simpa using List.all_eq_true.1 hfinished t (List.mem_of_getElem? ht)

/-- As long as something is left, some task can be polled or answered. -/
theorem exists_move_of_not_isFinished (h : f.isFinished = false) :
    ∃ i, (∀ w, (f.poll? i w).isSome) ∨ ∀ v now a, (f.answer? i v now a).isSome := by
  obtain ⟨⟨e, s⟩, ht, hs⟩ := List.all_eq_false.1 h
  obtain ⟨i, hi⟩ := List.mem_iff_getElem?.1 ht
  exact ⟨i, exists_move hi (by simpa using hs)⟩

/-- **A barrier.**  A worker that fans out moves one of its tasks and writes nothing, or every task
    has finished and it writes what has arrived. -/
theorem barrier {w : Worker} {s : Worker.Surroundings} {a : Worker.Action} {t : Worker.Turn}
    (hrun : Run s.config.validator es ms rs f) (hstage : w.stage = .fetching f)
    (h : w.act? s a = some t) :
    (∃ m new f', Run s.config.validator es (ms ++ [m]) (rs ++ new) f' ∧
      t = ⟨{ w with stage := .fetching f' }, s.world,
        new.map fun (i, r) => Worker.taskRequest s i r⟩) ∨
    f.isFinished = true ∧ ∃ heed, a = .collect heed ∧
      t.world = (f.persist s.world).1.recordRefresh := by
  -- While the tasks are at work nothing but their moves can come, and the barrier after them.
  cases Worker.step_of_act? h with
  | expire hother | start hother | tick hother | acknowledged hother | dropped hother
  | manifestAnswered hother => cases hstage.symm.trans hother
  | quit hother => rcases hother with hother | hother <;> cases hstage.symm.trans hother
  | poll hother hpolled =>
    cases hstage.symm.trans hother
    exact .inl ⟨_, _, _, hrun.poll hpolled, rfl⟩
  | taskAnswered hother _ hanswered =>
    cases hstage.symm.trans hother
    refine .inl ⟨_, _, _, hrun.answer hanswered, ?_⟩
    rw [List.map_map]
    rfl
  | @collect _ heed hother hfinished =>
    cases hstage.symm.trans hother
    exact .inr ⟨hfinished, heed, rfl, rfl⟩

/-- What can be said of a manifest's tasks after some moves. -/
structure Account (v : Validator) (es : List Entry) (ms : List Move) (rs : List (Nat × Request))
    (f : FanOut) : Prop where
  /-- A worker writes nothing before every task has finished, and then all that has arrived. -/
  barrier : ∀ (w : Worker) (s : Worker.Surroundings) (a : Worker.Action) (t : Worker.Turn),
    w.stage = .fetching f → s.config.validator = v → w.act? s a = some t →
      (∃ m new f', Run v es (ms ++ [m]) (rs ++ new) f' ∧
        t = ⟨{ w with stage := .fetching f' }, s.world,
          new.map fun (i, r) => Worker.taskRequest s i r⟩) ∨
      f.isFinished = true ∧ ∃ heed, a = .collect heed ∧
        t.world = (f.persist s.world).1.recordRefresh
  /-- A task that has not finished can go on, whatever it is answered, and not for ever. -/
  progress : (f.isFinished = false →
    ∃ i, (∀ w, (f.poll? i w).isSome) ∨ ∀ v now a, (f.answer? i v now a).isSome) ∧
    ms.length ≤ 3 * es.length
  /-- In the end every request has its answer: that for the list first, then that for the schema. -/
  answered : f.isFinished = true → ∀ (i : Nat) (e : Entry), es[i]? = some e →
    (asked i rs).map (·.url) <+: e.urls ∧ (replies i ms).length = (asked i rs).length ∧
      replies i ms ≠ []
  /-- What is written, and how many lists are counted. -/
  outcome : ∀ w, Outcome v es ms w (f.persist w)
  /-- Another run with the same answers counts as many, and leaves the same but for the times. -/
  independent : ∀ ms' rs' f', Run v es ms' rs' f' →
    (∀ i, (replies i ms).map (·.1) = (replies i ms').map (·.1)) →
    ∀ w w' : World, (∀ id, w.canWrite id = w'.canWrite id) →
      (∀ id, (w.contents.get? id).map Content.document =
        (w'.contents.get? id).map Content.document) →
      (f.persist w).2 = (f'.persist w').2 ∧
        ∀ id, ((f.persist w).1.contents.get? id).map Content.document =
          ((f'.persist w').1.contents.get? id).map Content.document

/-- **Every list on its own.**  Whatever the tasks of a manifest with distinct ids find and are
    answered, in whatever order. -/
theorem isolation (hids : (es.map (·.id)).Nodup) (hrun : Run v es ms rs f) :
    Account v es ms rs f where
  barrier w s a t hstage hv h := by
    subst hv
    exact FanOut.barrier hrun hstage h
  progress := ⟨exists_move_of_not_isFinished,
    Nat.le_trans (Nat.le_add_right ..) (length_add_left_le hrun)⟩
  answered hfinished i e he := by
    obtain ⟨stage, ht, hhist⟩ := (sound_of_run hrun).exists_task he
    obtain rfl : stage = .finished := task_of_isFinished hfinished ht
    obtain ⟨hurls, hlen, hne⟩ := hhist
    exact ⟨hurls, by rw [hlen, List.length_map], hne⟩
  outcome := outcome_of_sound hids (sound_of_run hrun)
  independent ms' rs' f' hrun' hanswers w w' hwrite hcontents :=
    (outcome_of_sound hids (sound_of_run hrun) w).congr
      (outcome_of_sound hids (sound_of_run hrun') w') hanswers hwrite hcontents

/-- Three lists, one of them with a schema. -/
def threeEntries : List Entry :=
  [{ id := "a", sourceUrl := "https://a.example" },
    { id := "b", sourceUrl := "https://b.example", schemaUrl := some "https://s.example" },
    { id := "c", sourceUrl := "https://c.example" }]

/-- Three entries fare differently, and each as its own answers have it. -/
theorem isolation_of_three : ∃ (v : Validator) (ms : List Move) (rs : List (Nat × Request))
    (f : FanOut), (threeEntries.map (·.id)).Nodup ∧ Run v threeEntries ms rs f ∧
    Account v threeEntries ms rs f ∧ f.isFinished = true ∧ (f.persist {}).2 = 2 := by
  have hids : (threeEntries.map (·.id)).Nodup := by decide
  let v : Validator := ⟨fun _ _ => .ok ()⟩
  -- The tasks take turns; the third one is cancelled.
  have h₁ : Run v threeEntries ([] ++ [.poll 1 {}]) _ _ := .poll .begin rfl
  have h₂ : Run v threeEntries (_ ++ [.poll 0 {}]) _ _ := .poll h₁ rfl
  have h₃ : Run v threeEntries (_ ++ [.answer 1 (.ok ⟨some [91, 93], "b1"⟩) ⟨1, false⟩]) _ _ :=
    .answer h₂ rfl
  have h₄ : Run v threeEntries (_ ++ [.poll 2 {}]) _ _ := .poll h₃ rfl
  have h₅ : Run v threeEntries (_ ++ [.answer 2 (.error .cancelled) ⟨2, false⟩]) _ _ :=
    .answer h₄ rfl
  have h₆ : Run v threeEntries (_ ++ [.answer 1 (.ok ⟨some [123, 125], ""⟩) ⟨3, false⟩]) _ _ :=
    .answer h₅ rfl
  have h₇ : Run v threeEntries (_ ++ [.answer 0 (.ok ⟨some [], "a1"⟩) ⟨4, false⟩]) _ _ :=
    .answer h₆ rfl
  exact ⟨v, _, _, _, hids, h₇, isolation hids h₇, rfl, rfl⟩

end Isolation

end FanOut

end TokenCatalog
