namespace AssetSync

variable {ε α β : Type} {R : ε → α → α → Prop} {S : ε → β → β → Prop}

def Chain (R : ε → α → α → Prop) : List ε → α → α → Prop
  | [], x, z => x = z
  | e :: es, x, z => ∃ y, R e x y ∧ Chain R es y z

@[simp] theorem chain_nil {x z : α} : Chain R [] x z ↔ x = z := Iff.rfl

@[simp] theorem chain_cons {e : ε} {es : List ε} {x z : α} :
    Chain R (e :: es) x z ↔ ∃ y, R e x y ∧ Chain R es y z := Iff.rfl

theorem chain_append {es fs : List ε} {x z : α} :
    Chain R (es ++ fs) x z ↔ ∃ y, Chain R es x y ∧ Chain R fs y z := by
  induction es generalizing x with
  | nil => simp
  | cons e es ih =>
    simp only [List.cons_append, chain_cons, ih]
    constructor
    · rintro ⟨y, he, u, hes, hfs⟩
      exact ⟨u, ⟨y, he, hes⟩, hfs⟩
    · rintro ⟨u, ⟨y, he, hes⟩, hfs⟩
      exact ⟨y, he, u, hes, hfs⟩

theorem Chain.split {e : ε} {es : List ε} {x z : α} (h : Chain R es x z) (he : e ∈ es) :
    ∃ before after y y', es = before ++ e :: after ∧ Chain R before x y ∧ R e y y' ∧
      Chain R after y' z := by
  obtain ⟨before, after, rfl⟩ := List.append_of_mem he
  obtain ⟨y, hbefore, y', hstep, hafter⟩ := chain_append.mp h
  exact ⟨before, after, y, y', rfl, hbefore, hstep, hafter⟩

theorem Chain.map (view : α → β) {es : List ε} {x z : α} (h : Chain R es x z)
    (hview : ∀ e ∈ es, ∀ x y, R e x y → S e (view x) (view y)) :
    Chain S es (view x) (view z) := by
  induction es generalizing x with
  | nil => exact congrArg view h
  | cons e es ih =>
    obtain ⟨y, he, hes⟩ := h
    exact ⟨view y, hview e (by simp) x y he, ih hes fun f hf => hview f (by simp [hf])⟩

theorem Chain.invariant {I : α → Prop} {es : List ε} {x z : α} (h : Chain R es x z) (hx : I x)
    (hkeep : ∀ e ∈ es, ∀ x y, I x → R e x y → I y) : I z := by
  induction es generalizing x with
  | nil => exact h ▸ hx
  | cons e es ih =>
    obtain ⟨y, he, hes⟩ := h
    exact ih hes (hkeep e (by simp) x y hx he) fun f hf => hkeep f (by simp [hf])

theorem Chain.forall_mem {I : α → Prop} {P : ε → Prop} {es : List ε} {x z : α}
    (h : Chain R es x z) (hx : I x) (hkeep : ∀ e x y, I x → R e x y → I y ∧ P e) :
    ∀ e ∈ es, P e := by
  induction es generalizing x with
  | nil => simp
  | cons e es ih =>
    obtain ⟨y, he, hes⟩ := h
    obtain ⟨hy, hp⟩ := hkeep e x y hx he
    exact List.forall_mem_cons.mpr ⟨hp, ih hes hy⟩

end AssetSync
