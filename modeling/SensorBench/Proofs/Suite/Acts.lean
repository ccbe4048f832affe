import SensorBench.Suite.Guard

/-!
# Laws of acts

An act keeps a property of its state if the property holds after the act wherever it held
before, however the act ends (`Act.Keeps`). It leads from a property to what holds of its
end, value or halt and state, in the runs that are fine (`Act.Leads`). It yields what holds of
the value that it gives, if it gives one (`Act.Yields`). Each way to build acts has its rules,
so what an act keeps, where it leads and what it yields is read off its parts.
-/

set_option autoImplicit false

namespace SensorBench

namespace Act

variable {σ τ α β γ : Type}

theorem andThen_assoc (x : Act σ α) (f : α → Act σ β) (k : β → Act σ γ) :
    andThen (andThen x f) k = andThen x fun a => andThen (f a) k := by
  funext s
  simp only [andThen]
  rcases x s with ⟨_ | _, _⟩ <;> rfl

theorem value_bind (a : α) (f : α → Act σ β) : (value a >>= f) = f a := rfl

theorem each_append (xs ys : List α) (f : α → Act σ Unit) :
    each (xs ++ ys) f = andThen (each xs f) fun _ => each ys f := by
  induction xs with
  | nil => rfl
  | cons x rest ih => rw [List.cons_append, each, each, andThen_assoc, ih]

theorem alongside_eq {start t : τ} {x : Act (τ × σ) α} {leave : τ → Act σ Unit} {s s' s'' : σ}
    {r : Except Halt α} (hx : x (start, s) = (r, (t, s'))) (hleave : leave t s' = (.ok (), s'')) :
    alongside start x leave s = (r, s'') := by
  simp only [alongside, hx, hleave]

/-- The act keeps a property of the state, however it ends. -/
def Keeps (P : σ → Prop) (x : Act σ α) : Prop := ∀ s, P s → P (x s).2

variable {P : σ → Prop}

/-- An act that leaves the state alone keeps everything. -/
def Still (x : Act σ α) : Prop := ∀ s, (x s).2 = s

theorem Still.keeps {x : Act σ α} (h : x.Still) : x.Keeps P := fun s hs => (h s).symm ▸ hs

theorem still_value (a : α) : (value a : Act σ α).Still := fun _ => rfl

theorem still_halt (h : Halt) : (halt h : Act σ α).Still := fun _ => rfl

theorem still_violate (v : Violation) : (violate v : Act σ α).Still := still_halt _

theorem keeps_pure (a : α) : (pure a : Act σ α).Keeps P := fun _ hs => hs

theorem Keeps.andThen {x : Act σ α} {f : α → Act σ β} (hx : x.Keeps P)
    (hf : ∀ a, (f a).Keeps P) : (Act.andThen x f).Keeps P := by
  intro s hs
  have hs' := hx s hs
  rw [Act.andThen]
  split
  · next a s' heq =>
    rw [heq] at hs'
    exact hf a s' hs'
  · next heq =>
    rw [heq] at hs'
    exact hs'

theorem Keeps.bind {x : Act σ α} {f : α → Act σ β} (hx : x.Keeps P) (hf : ∀ a, (f a).Keeps P) :
    (x >>= f).Keeps P :=
  hx.andThen hf

theorem Keeps.ite {c : Prop} [Decidable c] {x y : Act σ α} (hx : x.Keeps P) (hy : y.Keeps P) :
    (if c then x else y).Keeps P := by
  split
  · exact hx
  · exact hy

/-- A step that is only taken sometimes, and what follows either way. -/
theorem Keeps.when {c : Prop} [Decidable c] {x : Act σ Unit} {f : Unit → Act σ α}
    (hx : x.Keeps P) (hf : (f ()).Keeps P) : (if c then x >>= f else f ()).Keeps P :=
  (hx.bind fun _ => hf).ite hf

theorem Keeps.each {f : α → Act σ Unit} (hf : ∀ a, (f a).Keeps P) (items : List α) :
    (Act.each items f).Keeps P := by
  induction items with
  | nil => exact fun _ hs => hs
  | cons a rest ih => exact (hf a).andThen fun _ => ih

theorem endingWith_snd (x : Act σ α) (last : Act σ Unit) (s : σ) :
    (endingWith x last s).2 = (last (x s).2).2 := by
  rw [endingWith]
  dsimp only
  split <;> next heq => rw [heq]

theorem alongside_snd (start : τ) (x : Act (τ × σ) α) (leave : τ → Act σ Unit) (s : σ) :
    (alongside start x leave s).2 = (leave (x (start, s)).2.1 (x (start, s)).2.2).2 := by
  rw [alongside]
  dsimp only
  split <;> next heq => rw [heq]

theorem Keeps.endingWith {x : Act σ α} {last : Act σ Unit} (hx : x.Keeps P) (hlast : last.Keeps P) :
    (Act.endingWith x last).Keeps P := by
  intro s hs
  rw [endingWith_snd]
  exact hlast _ (hx s hs)

/-- What holds of the value kept beside an act and of the state is turned by leaving into
what holds of the state alone. -/
theorem Keeps.alongside {start : τ} {x : Act (τ × σ) α} {leave : τ → Act σ Unit}
    {R : τ × σ → Prop} (hstart : ∀ s, P s → R (start, s)) (hx : x.Keeps R)
    (hleave : ∀ t s, R (t, s) → P (leave t s).2) : (Act.alongside start x leave).Keeps P := by
  intro s hs
  rw [alongside_snd]
  exact hleave _ _ (hx _ (hstart s hs))

/-! ## Where acts lead -/

/-- Wherever an act that starts in `P` ends in a state that is fine, it ends as `Q` says; and
what is fine at the end was fine at the start. The second part makes `fine` a condition on a
whole run that is looked for at its end only. -/
def Leads (fine P : σ → Prop) (x : Act σ α) (Q : Except Halt α → σ → Prop) : Prop :=
  ∀ s, fine (x s).2 → fine s ∧ (P s → Q (x s).1 (x s).2)

/-- The end of an act that gives a value. -/
def Gives (R : α → σ → Prop) (r : Except Halt α) (s : σ) : Prop := ∃ a, r = .ok a ∧ R a s

section Leads

variable {fine : σ → Prop} {P' : σ → Prop} {x : Act σ α} {f : α → Act σ β}
  {Q Q' : Except Halt α → σ → Prop} {R : α → σ → Prop}

theorem Leads.mono (hx : x.Leads fine P Q) (hP : ∀ s, P' s → P s)
    (hQ : ∀ r s, fine s → Q r s → Q' r s) : x.Leads fine P' Q' := by
  intro s hfine
  obtain ⟨hstart, hend⟩ := hx s hfine
  exact ⟨hstart, fun hs => hQ _ _ hfine (hend (hP s hs))⟩

/-- An act that is not reached leads anywhere. -/
theorem Leads.unreached (hx : x.Leads fine P Q) : x.Leads fine (fun _ => False) Q' :=
  fun s hfine => ⟨(hx s hfine).1, False.elim⟩

/-- What has nothing to do with the state is there after an act as before it. -/
theorem Leads.frame (p : Prop) (hx : x.Leads fine P (Gives R)) :
    x.Leads fine (fun s => p ∧ P s) (Gives fun a s => p ∧ R a s) := by
  intro s hfine
  obtain ⟨hstart, hend⟩ := hx s hfine
  refine ⟨hstart, fun ⟨hp, hs⟩ => ?_⟩
  obtain ⟨a, hok, ha⟩ := hend hs
  exact ⟨a, hok, hp, ha⟩

theorem leads_value {a : α} (h : ∀ s, P s → Q (.ok a) s) : (value a).Leads fine P Q :=
  fun s hfine => ⟨hfine, h s⟩

theorem leads_violate {v : Violation} (h : ∀ s, P s → Q (.error (.violation v)) s) :
    (violate v).Leads fine P Q :=
  fun s hfine => ⟨hfine, h s⟩

/-- The second act starts where the first gives a value, and an act that halts is the end. -/
theorem Leads.andThen {Q : Except Halt β → σ → Prop}
    (hx : x.Leads fine P fun r s => match r with
      | .ok a => R a s
      | .error h => Q (.error h) s)
    (hf : ∀ a, (f a).Leads fine (R a) Q) : (Act.andThen x f).Leads fine P Q := by
  intro s hfine
  have hx' := hx s
  rw [Act.andThen] at hfine ⊢
  generalize x s = outcome at hx' hfine
  obtain ⟨_ | a, s'⟩ := outcome
  · exact hx' hfine
  · obtain ⟨hmid, hend⟩ := hf a s' hfine
    obtain ⟨hstart, hbegun⟩ := hx' hmid
    exact ⟨hstart, fun hs => hend (hbegun hs)⟩

theorem Leads.next {Q : Except Halt β → σ → Prop} (hx : x.Leads fine P (Gives R))
    (hf : ∀ a, (f a).Leads fine (R a) Q) : (Act.andThen x f).Leads fine P Q := by
  refine Leads.andThen (hx.mono (fun _ => id) fun r s _ hr => ?_) hf
  obtain ⟨a, rfl, ha⟩ := hr
  exact ha

/-- What a loop leads to, said for the items done so far. -/
theorem Leads.each {f : α → Act σ Unit} {I : List α → σ → Prop} {items : List α}
    (hf : ∀ before a, before ++ [a] <+: items →
      (f a).Leads fine (I before) (Gives fun _ => I (before ++ [a]))) :
    (Act.each items f).Leads fine (I []) (Gives fun _ => I items) := by
  -- the items are those done and those left
  have walk : ∀ rest before, before ++ rest = items →
      (Act.each rest f).Leads fine (I before) (Gives fun _ => I items) := by
    intro rest
    induction rest with
    | nil =>
      intro before hitems
      rw [List.append_nil] at hitems
      exact leads_value fun s hs => ⟨(), rfl, hitems ▸ hs⟩
    | cons a rest ih =>
      intro before hitems
      have hitems' : before ++ [a] ++ rest = items := by
        rw [List.append_assoc]
        exact hitems
      exact (hf before a ⟨rest, hitems'⟩).next fun _ => ih (before ++ [a]) hitems'
  exact walk items [] rfl

theorem Leads.endingWith {last : Act σ Unit} (hx : x.Leads fine P Q')
    (hlast : ∀ r, last.Leads fine (Q' r) (Gives fun _ => Q r)) :
    (Act.endingWith x last).Leads fine P Q := by
  intro s hfine
  rw [endingWith_snd] at hfine
  obtain ⟨hmid, hend⟩ := hlast (x s).1 (x s).2 hfine
  obtain ⟨hstart, hbegun⟩ := hx s hmid
  refine ⟨hstart, fun hs => ?_⟩
  obtain ⟨_, hok, hQ⟩ := hend (hbegun hs)
  rw [Act.endingWith]
  dsimp only
  generalize last (x s).2 = outcome at hok hQ
  obtain ⟨r, s'⟩ := outcome
  cases hok
  exact hQ

theorem Leads.widen (hx : x.Leads fine P Q) :
    (Act.widen x : Act (τ × σ) α).Leads (fun s => fine s.2) (fun s => P s.2)
      fun r s => Q r s.2 :=
  fun s => hx s.2

theorem Leads.alongside {start : τ} {x : Act (τ × σ) α} {leave : τ → Act σ Unit}
    {R : τ × σ → Prop} {Q' : Except Halt α → τ × σ → Prop} (hstart : ∀ s, P s → R (start, s))
    (hx : x.Leads (fun s => fine s.2) R Q')
    (hleave : ∀ r t, (leave t).Leads fine (fun s => Q' r (t, s)) (Gives fun _ => Q r)) :
    (Act.alongside start x leave).Leads fine P Q := by
  intro s hfine
  rw [alongside_snd] at hfine
  obtain ⟨hmid, hend⟩ := hleave (x (start, s)).1 _ _ hfine
  obtain ⟨hbegin, hbegun⟩ := hx (start, s) hmid
  refine ⟨hbegin, fun hs => ?_⟩
  obtain ⟨_, hok, hQ⟩ := hend (hbegun (hstart s hs))
  rw [Act.alongside]
  dsimp only
  generalize leave (x (start, s)).2.1 (x (start, s)).2.2 = outcome at hok hQ
  obtain ⟨r, s'⟩ := outcome
  cases hok
  exact hQ

end Leads

/-! ## What acts yield -/

/-- Whatever value the act gives, it is as said. -/
def Yields (R : α → Prop) (x : Act σ α) : Prop := ∀ s a, (x s).1 = .ok a → R a

section Yields

variable {R : α → Prop} {S : β → Prop} {x : Act σ α} {f : α → Act σ β}

theorem yields_value {a : α} (h : R a) : (value a : Act σ α).Yields R := by
  rintro _ _ ⟨⟩
  exact h

theorem yields_violate (v : Violation) : (violate v : Act σ α).Yields R := by
  rintro _ _ ⟨⟩

theorem Yields.bind (hx : x.Yields R) (hf : ∀ a, R a → (f a).Yields S) : (x >>= f).Yields S := by
  intro s b hb
  have hx' := hx s
  change (Act.andThen x f s).1 = .ok b at hb
  rw [Act.andThen] at hb
  split at hb
  · next a mid heq =>
    rw [heq] at hx'
    exact hf a (hx' a rfl) mid b hb
  · cases hb

/-- Two acts yield what the second yields after any value of the first. -/
theorem Yields.last (hf : ∀ a, (f a).Yields S) : (x >>= f).Yields S :=
  Yields.bind (fun _ _ _ => trivial) fun a _ => hf a

/-- A step that is only taken sometimes, and what follows either way. -/
theorem Yields.when {c : Prop} [Decidable c] {x : Act σ Unit} {f : Unit → Act σ β}
    (hf : (f ()).Yields S) : (if c then x >>= f else f ()).Yields S := by
  split
  · exact Yields.last fun _ => hf
  · exact hf

end Yields

end Act

/-- The answer is one that the host gives in some state. -/
def Host.Answers {σ : Type} (host : Host σ) (q : Request) (answer : q.Answer) : Prop :=
  ∃ s, (host q s).1 = .ok answer

theorem Host.ask_yields {σ : Type} (host : Host σ) (q : Request) :
    (host.ask q).Yields (host.Answers q) := by
  intro s answer h
  rw [Host.ask] at h
  split at h
  · next heq =>
    cases h
    exact ⟨s, by rw [heq]⟩
  · cases h

section Guards

variable {σ α : Type} {host : Host σ} {fine P : σ → Prop} {Q : Except Halt α → σ → Prop}

theorem Host.ask_beside {τ : Type} (host : Host σ) (q : Request) :
    (host.beside : Host (τ × σ)).ask q = (host.ask q).widen := by
  funext s
  simp only [Host.ask, Host.beside, Act.widen]
  rcases host q s.2 with ⟨_ | _, _⟩ <;> rfl

/-- A request leads beside a value to where it leads without one. -/
theorem Host.ask_leads {τ : Type} {q : Request} {R : q.Answer → σ → Prop}
    (h : (host.ask q).Leads fine P (Act.Gives R)) :
    ((host.beside : Host (τ × σ)).ask q).Leads (fun s => fine s.2) (fun s => P s.2)
      (Act.Gives fun answer s => R answer s.2) := by
  rw [Host.ask_beside]
  exact h.widen

/-- A call leads through a guard to where it leads without one. -/
theorem Guard.call_leads {c : Call} {R : Except Status Int → σ → Prop}
    (h : (host.call c).Leads fine P (Act.Gives R)) :
    (Guard.call host.beside c).Leads (fun s => fine s.2) (fun s => P s.2)
      (Act.Gives fun reply s => R reply s.2) := by
  rintro ⟨g, s⟩ hfine
  have hcall := h s
  simp only [Guard.call, Host.call, Host.ask, Host.beside] at hcall hfine ⊢
  generalize host (.call c) s = outcome at hcall hfine
  obtain ⟨_ | reply, s'⟩ := outcome
  · obtain ⟨hstart, hend⟩ := hcall hfine
    refine ⟨hstart, fun hs => ?_⟩
    obtain ⟨_, hok, -⟩ := hend hs
    cases hok
  · obtain ⟨hstart, hend⟩ := hcall hfine
    refine ⟨hstart, fun hs => ?_⟩
    obtain ⟨_, hok, hR⟩ := hend hs
    cases hok
    exact ⟨reply, rfl, hR⟩

/-- An act under a guard leads to where its body leads, if no release leads away from
there. -/
theorem guarded_leads {body : Host (Guard × σ) → Act (Guard × σ) α}
    (hbody : (body host.beside).Leads (fun s => fine s.2) (fun s => P s.2) fun r s => Q r s.2)
    (hrelease : ∀ r (g : Guard), ∀ c ∈ g.releases,
      (host.ask (.release c)).Leads fine (Q r) (Act.Gives fun _ => Q r)) :
    (guarded host body).Leads fine P Q := by
  refine Act.Leads.alongside (fun _ => id) hbody fun r g => ?_
  refine Act.Leads.each (I := fun _ => Q r) fun before c hc => ?_
  have hmem : c ∈ g.releases := hc.subset (List.mem_append_right before List.mem_cons_self)
  exact (hrelease r g c hmem).next fun _ => Act.leads_value fun _ hs => ⟨(), rfl, hs⟩

theorem subscribed_leads {body : Nat → Act σ α} {R : Nat → σ → Prop}
    {Q' : Except Halt α → σ → Prop} (hstart : (host.ask .subscribe).Leads fine P (Act.Gives R))
    (hbody : ∀ k, (body k).Leads fine (R k) Q')
    (hend : ∀ r, (host.ask .unsubscribe).Leads fine (Q' r) (Act.Gives fun _ => Q r)) :
    (subscribed host body).Leads fine P Q :=
  hstart.next fun k => (hbody k).endingWith hend

end Guards

end SensorBench
