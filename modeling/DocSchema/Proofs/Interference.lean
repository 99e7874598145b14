import DocSchema.Proofs.Clients

/-!
# DocSchema.Proofs.Interference

What a task achieves while other clients use its catalog.

Between two requests of a task the catalog may have moved. A course says how: its stages, what the
catalog is at each, and which stages may follow which. A task that keeps to a course finds the
catalog at some later stage at each of its requests, and takes it to a stage that is later still
(`Task.Ensures`). Others may then do the same in between (`Ensures.later`), and tasks are put
together like programs that run alone: `Ensures.bind` and `ensures_each`.
-/

namespace DocSchema

/-- A course that a catalog may take. -/
structure Course where
  Stage : Type
  /-- The catalog at a stage. -/
  catalog : Stage → Catalog
  /-- Whether a stage may follow another. -/
  Later : Stage → Stage → Prop
  /-- The requests that may be made at a stage. -/
  Permits : Stage → Request → Prop
  refl : ∀ x, Later x x
  trans : ∀ {x y z}, Later x y → Later y z → Later x z

/-- Whether something that holds at a stage holds at all later ones. -/
def Course.Lasting (k : Course) (P : k.Stage → Prop) : Prop := ∀ x y, k.Later x y → P x → P y

namespace Task

variable {k : Course} {α β : Type}

/-- Whether a task keeps to a course when the catalog has come to a later stage at each of its
requests, and ends with a result that is good for its stage, or with an error that may end it
there. -/
def Ensures (k : Course) (good : α → k.Stage → Prop) (bad : BootstrapError → k.Stage → Prop) :
    Task α → k.Stage → Prop
  | .done (.ok a), x => good a x
  | .done (.error e), x => bad e x
  | .ask _ request next, x =>
    ∀ y, k.Later x y → k.Permits y request ∧
      ∀ now, ∃ z, k.Later y z ∧ ((k.catalog y).answer now request).2 = k.catalog z ∧
        (next ((k.catalog y).answer now request).1).Ensures k good bad z

variable {good good' : α → k.Stage → Prop} {bad bad' : BootstrapError → k.Stage → Prop}
  {t : Task α} {x y : k.Stage}

/-- A task that has not come further keeps to its course at a later stage. -/
theorem Ensures.later (h : t.Ensures k good bad x) (hxy : k.Later x y)
    (hgood : ∀ a, k.Lasting (good a)) (hbad : ∀ e, k.Lasting (bad e)) :
    t.Ensures k good bad y := by
  match t, h with
  | .done (.ok a), h => exact hgood a x y hxy h
  | .done (.error e), h => exact hbad e x y hxy h
  | .ask starts request next, h => exact fun z hyz => h z (k.trans hxy hyz)

/-- Something else may be said of the end of a task, which is at a later stage. -/
theorem Ensures.imp (h : t.Ensures k good bad x)
    (hgood : ∀ a y, k.Later x y → good a y → good' a y)
    (hbad : ∀ e y, k.Later x y → bad e y → bad' e y) : t.Ensures k good' bad' x := by
  induction t generalizing x with
  | done result =>
      match result, h with
      | .ok a, h => exact hgood a x (k.refl x) h
      | .error e, h => exact hbad e x (k.refl x) h
  | ask starts request next ih =>
      intro y hxy
      obtain ⟨hpermits, hnext⟩ := h y hxy
      refine ⟨hpermits, fun now => ?_⟩
      obtain ⟨z, hyz, hcatalog, hz⟩ := hnext now
      have hxz := k.trans hxy hyz
      exact ⟨z, hyz, hcatalog, ih _ hz (fun a w hzw => hgood a w (k.trans hxz hzw))
        fun e w hzw => hbad e w (k.trans hxz hzw)⟩

/-- A task goes on at the stage at which its first part ended. -/
theorem Ensures.bind {f : α → Task β} {good : β → k.Stage → Prop}
    (h : t.Ensures k (fun a y => (f a).Ensures k good bad y) bad x) :
    (t >>= f).Ensures k good bad x := by
  change (t.bind f).Ensures k good bad x
  induction t generalizing x with
  | done result =>
      match result, h with
      | .ok a, h => exact h
      | .error e, h => exact h
  | ask starts request next ih =>
      intro y hxy
      obtain ⟨hpermits, hnext⟩ := h y hxy
      refine ⟨hpermits, fun now => ?_⟩
      obtain ⟨z, hyz, hcatalog, hz⟩ := hnext now
      exact ⟨z, hyz, hcatalog, ih _ hz⟩

/-- A task over a list takes an invariant of what is left of the list from element to element. -/
theorem ensures_each {f : α → Task β} {inv : List α → k.Stage → Prop}
    (hf : ∀ a rest x, inv (a :: rest) x → (f a).Ensures k (fun _ => inv rest) bad x)
    {as : List α} {x : k.Stage} (h : inv as x) :
    (each f as).Ensures k (fun _ => inv []) bad x := by
  induction as generalizing x with
  | nil => exact h
  | cons a as ih =>
      refine Ensures.bind ((hf a as x h).imp (fun b y _ hy => ?_) fun e y _ he => he)
      exact Ensures.bind ((ih hy).imp (fun bs z _ hz => hz) fun e z _ he => he)

/-- What holds from then on of each element of a list holds of all of them at the end. -/
theorem ensures_each_lasting {f : α → Task β} {P : α → k.Stage → Prop}
    (hf : ∀ a x, (f a).Ensures k (fun _ => P a) bad x) (hP : ∀ a, k.Lasting (P a))
    (as : List α) (x : k.Stage) :
    (each f as).Ensures k (fun _ y => ∀ a ∈ as, P a y) bad x := by
  induction as generalizing x with
  | nil => exact List.forall_mem_nil _
  | cons a as ih =>
      refine Ensures.bind ((hf a x).imp (fun b y _ ha => ?_) fun e y _ he => he)
      refine Ensures.bind ((ih y).imp (fun bs z hlater has => ?_) fun e z _ he => he)
      exact List.forall_mem_cons.2 ⟨hP a y z hlater ha, has⟩

end Task

/-- A task that makes its next request takes the catalog to a later stage of their course. -/
theorem Clients.exists_later_of_advance {k : Course} {good : List Outcome → k.Stage → Prop}
    {bad : BootstrapError → k.Stage → Prop} {t : Task (List Outcome)} {x : k.Stage}
    (h : t.Ensures k good bad x) (now : Int64) :
    ∃ y, k.Later x y ∧ (advance now (k.catalog x) t).2 = k.catalog y ∧
      (advance now (k.catalog x) t).1.Ensures k good bad y := by
  cases t with
  | done result => exact ⟨x, k.refl x, rfl, h⟩
  | ask starts request next => exact (h x (k.refl x)).2 now

end DocSchema
