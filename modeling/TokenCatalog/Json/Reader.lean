import TokenCatalog.Json.Fault

namespace TokenCatalog.Json

open Ascii

/-!
# Readers — one pass over the bytes of a document

A reader takes bytes from the front of its input and never puts any back, so what it leaves is no
longer than what it was given; the loops below end for that reason.

* `Reader` — the type, its monad, and `run` equations for both operations;
* `Reader.items` — the elements up to a closing bracket;
* `Reader.members` — the members up to a closing brace, folded into a state;
* `Reader.decode` — a whole document, with nothing but blanks after it.
-/

/-- Takes a value from the front of the input. -/
structure Reader (α : Type) where
  /-- The value read and the bytes left. -/
  run : Bytes → Except Fault (α × Bytes)
  length_le : ∀ {s a r}, run s = .ok (a, r) → r.length ≤ s.length

namespace Reader

/-! ### The monad -/

/-- Take nothing. -/
protected def pure (a : α) : Reader α where
  run s := .ok (a, s)
  length_le h := by cases h; exact Nat.le_refl _

/-- One reader, then another that depends on what was read. -/
protected def bind (x : Reader α) (f : α → Reader β) : Reader β where
  run s := match x.run s with
    | .ok (a, r) => (f a).run r
    | .error e => .error e
  length_le {s b t} h := by
    split at h
    · next a r hx => exact Nat.le_trans ((f a).length_le h) (x.length_le hx)
    · cases h

instance : Monad Reader where
  pure := Reader.pure
  bind := Reader.bind

/-- Stop with a fault. -/
def fail (e : Fault) : Reader α where
  run _ := .error e
  length_le h := by cases h

/-- Stop with a mismatch. -/
def mismatch (m : Mismatch) : Reader α := fail (.mismatch m)

@[simp] theorem run_pure (a : α) (s : Bytes) : (pure a : Reader α).run s = .ok (a, s) := rfl

theorem run_bind (x : Reader α) (f : α → Reader β) (s : Bytes) :
    (x >>= f).run s = match x.run s with
      | .ok (a, r) => (f a).run r
      | .error e => .error e := rfl

/-- Behind a reader that succeeds the next one goes on with what is left. -/
theorem run_bind_ok {x : Reader α} {f : α → Reader β} {s : Bytes} {a : α} {r : Bytes}
    (h : x.run s = .ok (a, r)) : (x >>= f).run s = (f a).run r := by
  rw [run_bind, h]

@[simp] theorem run_fail (e : Fault) (s : Bytes) : (fail e : Reader α).run s = .error e := rfl

/-! ### Bytes -/

/-- A blank of JSON. -/
def isBlank (b : UInt8) : Bool :=
  b == space || b == lineFeed || b == tab || b == carriageReturn

/-- Skip blanks and look at the byte after them. -/
def peek : Reader (Option UInt8) where
  run s := let r := s.dropWhile isBlank; .ok (r.head?, r)
  length_le h := by cases h; exact (List.dropWhile_sublist _).length_le

/-- Take one byte, whatever it is. -/
def skip : Reader Unit where
  run s := .ok ((), s.tail)
  length_le h := by cases h; simp

/-- Take the given bytes. -/
def wordFrom : Bytes → Bytes → Except Fault (Unit × Bytes)
  | [], s => .ok ((), s)
  | _ :: _, [] => .error .truncated
  | w :: ws, b :: s => if w = b then wordFrom ws s else .error .malformed

/-- A word takes its own bytes and no others. -/
theorem wordFrom_length_le {w s : Bytes} {a : Unit} {r : Bytes}
    (h : wordFrom w s = .ok (a, r)) : r.length ≤ s.length := by
  fun_induction wordFrom w s with
  | case1 s => cases h; exact Nat.le_refl _
  | case2 => cases h
  | case3 w ws s ih => exact Nat.le_succ_of_le (ih h)
  | case4 => cases h

/-- Take the given word. -/
def word (w : String) : Reader Unit where
  run := wordFrom (Bytes.ofText w)
  length_le := wordFrom_length_le

/-- Take a colon. -/
def colon : Reader Unit := do
  match ← peek with
  | none => fail .truncated
  | some b => if b = Ascii.colon then skip else fail .malformed

/-! ### Elements and members -/

/-- What follows the first byte that is no blank is shorter than the input. -/
theorem length_lt_of_skipBlanks {s r : Bytes} {b : UInt8} (h : s.dropWhile isBlank = b :: r) :
    r.length < s.length := by
  have := (List.dropWhile_sublist isBlank (l := s)).length_le
  rw [h] at this
  exact this

/-- The elements after the first, each behind a comma, and the closing bracket. -/
def laterItems (item : Reader α) (s : Bytes) : Except Fault (List α × Bytes) :=
  match _hs : s.dropWhile isBlank with
  | [] => .error .truncated
  | b :: r =>
    if b = closeBracket then .ok ([], r)
    else if b = comma then
      match _hr : r.dropWhile isBlank with
      | [] => .error .truncated
      | c :: r' =>
        if c = closeBracket then .error .malformed
        else
          match _hi : item.run (c :: r') with
          | .error e => .error e
          | .ok (a, t) =>
            match laterItems item t with
            | .error e => .error e
            | .ok (as, u) => .ok (a :: as, u)
    else .error .malformed
termination_by s.length
decreasing_by
  have h1 := length_lt_of_skipBlanks _hs
  have h2 := length_lt_of_skipBlanks _hr
  have h3 := item.length_le _hi
  simp only [List.length_cons] at h3
  omega

/-- The later items of a sequence leave no more than there was. -/
theorem laterItems_length_le {item : Reader α} {s : Bytes} {as : List α} {r : Bytes}
    (h : laterItems item s = .ok (as, r)) : r.length ≤ s.length := by
  fun_induction laterItems item s generalizing as r with
  | case2 _ _ hs =>
    cases h
    exact Nat.le_of_lt (length_lt_of_skipBlanks hs)
  | case7 _ _ _ _ hr _ _ _ hi _ _ hrec hs _ ih =>
    cases h
    have h1 := length_lt_of_skipBlanks hs
    have h2 := length_lt_of_skipBlanks hr
    have h3 := item.length_le hi
    have h4 := ih hrec
    simp only [List.length_cons] at h3
    omega
  | _ => cases h

/-- The elements after the first, each behind a comma, and the closing bracket. -/
def more (item : Reader α) : Reader (List α) where
  run := laterItems item
  length_le := laterItems_length_le

/-- The elements of a sequence whose opening bracket was taken, and its closing bracket. -/
def items (item : Reader α) : Reader (List α) := do
  match ← peek with
  | none => fail .truncated
  | some b =>
    if b = closeBracket then
      skip
      return []
    else
      let a ← item
      let as ← more item
      return a :: as

/-- The members after the first, each behind a comma, and the closing brace. -/
def laterMembers (member : σ → Reader σ) (acc : σ) (s : Bytes) : Except Fault (σ × Bytes) :=
  match _hs : s.dropWhile isBlank with
  | [] => .error .truncated
  | b :: r =>
    if b = closeBrace then .ok (acc, r)
    else if b = comma then
      match _hr : r.dropWhile isBlank with
      | [] => .error .truncated
      | c :: r' =>
        if c = quote then
          match _hi : (member acc).run r' with
          | .error e => .error e
          | .ok (acc', t) => laterMembers member acc' t
        else .error .malformed
    else .error .malformed
termination_by s.length
decreasing_by
  have h1 := length_lt_of_skipBlanks _hs
  have h2 := length_lt_of_skipBlanks _hr
  have h3 := (member acc).length_le _hi
  omega

/-- The later members of a map leave no more than there was. -/
theorem laterMembers_length_le {member : σ → Reader σ} {acc acc' : σ} {s r : Bytes}
    (h : laterMembers member acc s = .ok (acc', r)) : r.length ≤ s.length := by
  fun_induction laterMembers member acc s generalizing acc' r with
  | case2 _ _ _ hs =>
    cases h
    exact Nat.le_of_lt (length_lt_of_skipBlanks hs)
  | case5 acc _ _ _ _ _ hi hs _ hr ih =>
    have h1 := length_lt_of_skipBlanks hs
    have h2 := length_lt_of_skipBlanks hr
    have h3 := (member acc).length_le hi
    have h4 := ih h
    omega
  | _ => cases h

/-- Fold over the members of an object whose opening brace was taken, and take its closing brace.
    `member` starts right behind the quote that opens a key. -/
def members (member : σ → Reader σ) (acc : σ) : Reader σ := do
  match ← peek with
  | none => fail .truncated
  | some b =>
    if b = closeBrace then
      skip
      return acc
    else if b = quote then
      skip
      let acc' ← member acc
      ⟨laterMembers member acc', laterMembers_length_le⟩
    else fail .malformed

/-! ### Whole documents -/

/-- Read a whole document: after the value only blanks may follow. -/
def decode (x : Reader α) (s : Bytes) : Except Fault α :=
  match x.run s with
  | .error e => .error e
  | .ok (a, r) => if r.all isBlank then .ok a else .error .malformed

end Reader

end TokenCatalog.Json
