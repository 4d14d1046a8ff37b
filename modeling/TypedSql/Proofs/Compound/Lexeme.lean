import TypedSql.Proofs.Render.Written

/-!
# The words of a text

What a reader of SQL sees in a text, without knowing how it was written: words, quoted names and
signs. The reader only knows the character that names are quoted with.

**Boundaries (`lexemesFrom_append`).** A text without quotes gives its own lexemes whatever follows,
provided that what follows does not begin with a character of a word.

**Nesting.** A lexeme lies on the surface if it is in no parentheses. `Calm` lexemes leave the depth
as it is and have nothing on the surface that a reader stops at.
-/

namespace TypedSql

inductive Lexeme where
  /-- A keyword, a name or a number. -/
  | word (s : String)
  | quoted (s : String)
  | sign (c : Char)
deriving DecidableEq, Repr

/-- Where the reader is: what it has read of a word or of a quoted name, the last character
first. -/
inductive Reader where
  | outside (pending : List Char)
  | inside (pending : List Char)

/-- The word that ends here, if one has begun. -/
def pendingWord : List Char → List Lexeme
  | [] => []
  | cs => [.word (String.ofList cs.reverse)]

/-- The lexemes of a text with names quoted by `q`. -/
def lexemesFrom (q : Char) : Reader → List Char → List Lexeme
  | .outside pending, [] => pendingWord pending
  | .inside pending, [] => [.quoted (String.ofList pending.reverse)]
  | .outside pending, c :: cs =>
    if isNameRest c then lexemesFrom q (.outside (c :: pending)) cs
    else if c = q then pendingWord pending ++ lexemesFrom q (.inside []) cs
    else if c = ' ' then pendingWord pending ++ lexemesFrom q (.outside []) cs
    else pendingWord pending ++ .sign c :: lexemesFrom q (.outside []) cs
  | .inside pending, c :: cs =>
    if c = q then
      .quoted (String.ofList pending.reverse) :: lexemesFrom q (.outside []) cs
    else lexemesFrom q (.inside (c :: pending)) cs

def lexemes (q : Char) (cs : List Char) : List Lexeme := lexemesFrom q (.outside []) cs

/-! ## Boundaries -/

/-- No word goes on in the text. -/
def Apart (cs : List Char) : Prop := ∀ c, cs.head? = some c → isNameRest c = false

theorem apart_nil : Apart [] := by
  intro c h
  cases h

theorem apart_cons {c : Char} (h : isNameRest c = false) (cs : List Char) : Apart (c :: cs) := by
  intro c' first
  cases first
  exact h

variable {q : Char}

theorem lexemesFrom_of_apart {cs : List Char} (h : Apart cs) (pending : List Char) :
    lexemesFrom q (.outside pending) cs = pendingWord pending ++ lexemes q cs := by
  cases cs with
  | nil => simp [lexemes, lexemesFrom, pendingWord]
  | cons c cs =>
    have other : isNameRest c = false := h c rfl
    simp only [lexemes, lexemesFrom, other]
    split
    · next word => cases word
    · split
      · rfl
      · split <;> rfl

/-- A text without quotes gives its own lexemes, whatever follows. -/
theorem lexemesFrom_append {cs rest : List Char} (unquoted : q ∉ cs) (h : Apart rest)
    (pending : List Char) :
    lexemesFrom q (.outside pending) (cs ++ rest)
      = lexemesFrom q (.outside pending) cs ++ lexemes q rest := by
  induction cs generalizing pending with
  | nil => exact lexemesFrom_of_apart h pending
  | cons c cs ih =>
    rw [List.mem_cons, not_or] at unquoted
    have other : ¬ c = q := fun same => unquoted.1 same.symm
    simp only [List.cons_append, lexemesFrom, ih unquoted.2, if_neg other]
    split
    · rfl
    · split <;> simp only [List.append_assoc, List.cons_append]

/-- Which character quotes names does not matter to a text that contains neither. -/
theorem lexemesFrom_congr {q' : Char} {cs : List Char} (h : q ∉ cs) (h' : q' ∉ cs)
    (pending : List Char) :
    lexemesFrom q (.outside pending) cs = lexemesFrom q' (.outside pending) cs := by
  induction cs generalizing pending with
  | nil => rfl
  | cons c cs ih =>
    rw [List.mem_cons, not_or] at h h'
    have other : ¬ c = q := fun same => h.1 same.symm
    have other' : ¬ c = q' := fun same => h'.1 same.symm
    simp only [lexemesFrom, ih h.2 h'.2, if_neg other, if_neg other']

/-- Behind a text that ends with no character of a word, a new lexeme begins. -/
theorem lexemes_append_of_getLast {cs : List Char} {c : Char} (last : cs.getLast? = some c)
    (other : isNameRest c = false) (unquoted : q ∉ cs) (rest : List Char) :
    lexemes q (cs ++ rest) = lexemes q cs ++ lexemes q rest := by
  obtain ⟨front, rfl⟩ := List.getLast?_eq_some_iff.1 last
  rw [List.mem_append, not_or, List.mem_singleton] at unquoted
  have differs : ¬ c = q := fun same => unquoted.2 same.symm
  have sign : ∀ ds, lexemes q (c :: ds) = lexemes q [c] ++ lexemes q ds := by
    intro ds
    simp only [lexemes, lexemesFrom, other, if_neg differs, Bool.false_eq_true, if_false]
    split <;> rfl
  have step : ∀ ds, lexemes q (front ++ c :: ds) = lexemes q front ++ lexemes q (c :: ds) :=
    fun ds => lexemesFrom_append unquoted.1 (apart_cons other ds) []
  rw [List.append_assoc, List.singleton_append, step, sign, step [], List.append_assoc]

/-- The characters of a word are pending behind it. -/
theorem lexemesFrom_word {cs rest : List Char} (h : ∀ c ∈ cs, isNameRest c = true)
    (pending : List Char) :
    lexemesFrom q (.outside pending) (cs ++ rest)
      = lexemesFrom q (.outside (cs.reverse ++ pending)) rest := by
  induction cs generalizing pending with
  | nil => rfl
  | cons c cs ih =>
    rw [List.forall_mem_cons] at h
    simp only [List.cons_append, lexemesFrom, h.1, if_true, ih h.2, List.reverse_cons,
      List.append_assoc]
    rfl

/-- A word by itself. -/
theorem lexemes_word {w : String} (nonempty : w ≠ "") (h : ∀ c ∈ w.toList, isNameRest c = true)
    {rest : List Char} (apart : Apart rest) :
    lexemes q (w.toList ++ rest) = .word w :: lexemes q rest := by
  rw [lexemes, lexemesFrom_word h, lexemesFrom_of_apart apart, List.append_nil]
  unfold pendingWord
  split
  · next none => simp [nonempty] at none
  · simp

/-- A quoted name ends with the next quote. -/
theorem lexemesFrom_quoted {cs rest : List Char} (h : q ∉ cs) (pending : List Char) :
    lexemesFrom q (.inside pending) (cs ++ q :: rest)
      = .quoted (String.ofList (cs.reverse ++ pending).reverse) :: lexemes q rest := by
  induction cs generalizing pending with
  | nil => simp [lexemesFrom, lexemes]
  | cons c cs ih =>
    rw [List.mem_cons, not_or] at h
    have other : ¬ c = q := fun same => h.1 same.symm
    simp only [List.cons_append, lexemesFrom, if_neg other, ih h.2, List.reverse_cons,
      List.append_assoc]
    rfl

/-! ## Nesting -/

/-- How many parentheses are open behind the lexeme. -/
def Lexeme.depth (depth : Nat) : Lexeme → Nat
  | .sign '(' => depth + 1
  | .sign ')' => depth - 1
  | _ => depth

def depthAfter (depth : Nat) (ls : List Lexeme) : Nat := ls.foldl Lexeme.depth depth

/-- The lexemes in no parentheses, if `depth` are open in front. -/
def surface : (depth : Nat) → List Lexeme → List Lexeme
  | _, [] => []
  | 0, l :: ls => l :: surface (l.depth 0) ls
  | depth + 1, l :: ls => surface (l.depth (depth + 1)) ls

theorem depthAfter_append (depth : Nat) (ls ms : List Lexeme) :
    depthAfter depth (ls ++ ms) = depthAfter (depthAfter depth ls) ms :=
  List.foldl_append

theorem surface_append (depth : Nat) (ls ms : List Lexeme) :
    surface depth (ls ++ ms) = surface depth ls ++ surface (depthAfter depth ls) ms := by
  induction ls generalizing depth with
  | nil => rfl
  | cons l ls ih =>
    cases depth with
    | zero => exact congrArg (l :: ·) (ih _)
    | succ depth => exact ih _

/-- The lexemes open `up` parentheses and close as many; nothing a reader stops at is on the
surface. -/
structure Calm (stop : Lexeme → Bool) (ls : List Lexeme) : Prop where
  depth : ∀ n, depthAfter n ls = n
  inside : ∀ n, surface (n + 1) ls = []
  free : ∀ l ∈ surface 0 ls, stop l = false

/-- The lexemes open one parenthesis for good. -/
structure Opening (stop : Lexeme → Bool) (ls : List Lexeme) : Prop where
  depth : ∀ n, depthAfter n ls = n + 1
  inside : ∀ n, surface (n + 1) ls = []
  free : ∀ l ∈ surface 0 ls, stop l = false

/-- The lexemes end with the parenthesis that they close. -/
structure Closing (ls : List Lexeme) : Prop where
  depth : ∀ n, depthAfter (n + 1) ls = n
  inside : ∀ n, surface (n + 1) ls = []

variable {stop : Lexeme → Bool} {ls ms os cs : List Lexeme}

theorem Calm.nil : Calm stop [] := ⟨fun _ => rfl, fun _ => rfl, List.forall_mem_nil _⟩

theorem Calm.append (hl : Calm stop ls) (hm : Calm stop ms) : Calm stop (ls ++ ms) where
  depth n := by rw [depthAfter_append, hl.depth, hm.depth]
  inside n := by rw [surface_append, hl.inside, hl.depth, hm.inside, List.append_nil]
  free := by
    rw [surface_append, hl.depth]
    exact List.forall_mem_append.2 ⟨hl.free, hm.free⟩

theorem Calm.mono {stop' : Lexeme → Bool} (h : Calm stop ls)
    (le : ∀ l, stop l = false → stop' l = false) : Calm stop' ls :=
  ⟨h.depth, h.inside, fun l hl => le l (h.free l hl)⟩

theorem Opening.mono {stop' : Lexeme → Bool} (h : Opening stop os)
    (le : ∀ l, stop l = false → stop' l = false) : Opening stop' os :=
  ⟨h.depth, h.inside, fun l hl => le l (h.free l hl)⟩

/-- Between parentheses, calm lexemes are calm whatever they hold. -/
theorem Calm.bracket {stop' : Lexeme → Bool} (ho : Opening stop os) (h : Calm stop' ls)
    (hc : Closing cs) : Calm stop (os ++ (ls ++ cs)) where
  depth n := by rw [depthAfter_append, depthAfter_append, ho.depth, h.depth, hc.depth]
  inside n := by
    rw [surface_append, surface_append, ho.inside, ho.depth, h.inside, h.depth, hc.inside]
    rfl
  free := by
    rw [surface_append, surface_append, ho.depth, h.inside, h.depth, hc.inside, List.append_nil,
      List.append_nil]
    exact ho.free

theorem Closing.of_calm (h : Calm stop ls) : Closing (ls ++ [.sign ')']) where
  depth n := by
    rw [depthAfter_append, h.depth]
    rfl
  inside n := by
    rw [surface_append, h.inside, h.depth]
    rfl

/-- No parenthesis is among the lexemes. -/
def isFlat (ls : List Lexeme) : Bool :=
  ls.all fun l => l != .sign '(' && l != .sign ')'

theorem Lexeme.depth_of_isFlat {l : Lexeme} (h : (l != .sign '(' && l != .sign ')') = true)
    (n : Nat) : l.depth n = n := by
  unfold Lexeme.depth
  split <;> simp_all

theorem calm_of_isFlat (flat : isFlat ls = true) (free : ∀ l ∈ ls, stop l = false) :
    Calm stop ls := by
  induction ls with
  | nil => exact .nil
  | cons l ls ih =>
    rw [isFlat, List.all_cons, Bool.and_eq_true] at flat
    rw [List.forall_mem_cons] at free
    have rest := ih flat.2 free.2
    have level := Lexeme.depth_of_isFlat flat.1
    refine ⟨fun n => ?_, fun n => ?_, ?_⟩
    · exact (congrArg (depthAfter · ls) (level n)).trans (rest.depth n)
    · exact (congrArg (surface · ls) (level (n + 1))).trans (rest.inside n)
    · have first : surface 0 (l :: ls) = l :: surface 0 ls :=
        congrArg (l :: surface · ls) (level 0)
      rw [first]
      exact List.forall_mem_cons.2 ⟨free.1, rest.free⟩

end TypedSql
