import AttackSharkX3.Effects.Prog
/-!
# History — what a program does after what it has seen

A program's own history is the list of its operations with their answers, the newest first.  `Keeps rule post p h` says
that from `h` on, whatever the answers, every operation `p` issues is one `rule` allows after the history so far, and the
value it ends with satisfies `post`.  No world is involved, so what is proved here holds under any interference.
-/
namespace Effects.Prog

variable {S : Sig} {α β γ : Type}

/-- An operation and its answer. -/
abbrev Event (S : Sig) : Type := (o : S.Op) × S.Res o

/-- A program's operations so far, the newest first. -/
abbrev History (S : Sig) : Type := List (Event S)

variable {rule rule' : History S → S.Op → Prop}

/-- **Every operation `p` issues after `h` keeps the rule, and its value satisfies `post`.** -/
def Keeps (rule : History S → S.Op → Prop) (post : α → History S → Prop) : Prog S α → History S → Prop
  | .pure a, h => post a h
  | .call o k, h => rule h o ∧ ∀ r, Keeps rule post (k r) (⟨o, r⟩ :: h)

theorem Keeps.bind (f : α → Prog S β) {mid : α → History S → Prop} {post : β → History S → Prop}
    (hf : ∀ a h, mid a h → Keeps rule post (f a) h) :
    ∀ (p : Prog S α) (h : History S), Keeps rule mid p h → Keeps rule post (p >>= f) h
  | .pure a, h, hp => hf a h hp
  | .call _ k, _, hp => ⟨hp.1, fun r => Keeps.bind f hf (k r) _ (hp.2 r)⟩

theorem Keeps.mono {post post' : α → History S → Prop} (hrule : ∀ h o, rule h o → rule' h o)
    (hpost : ∀ a h, post a h → post' a h) :
    ∀ (p : Prog S α) (h : History S), Keeps rule post p h → Keeps rule' post' p h
  | .pure a, h, hp => hpost a h hp
  | .call o k, h, hp => ⟨hrule h o hp.1, fun r => Keeps.mono hrule hpost (k r) _ (hp.2 r)⟩

theorem Keeps.and {post post' : α → History S → Prop} :
    ∀ (p : Prog S α) (h : History S), Keeps rule post p h → Keeps rule' post' p h →
      Keeps (fun h o => rule h o ∧ rule' h o) (fun a h => post a h ∧ post' a h) p h
  | .pure _, _, hp, hp' => ⟨hp, hp'⟩
  | .call _ k, _, hp, hp' => ⟨⟨hp.1, hp'.1⟩, fun r => Keeps.and (k r) _ (hp.2 r) (hp'.2 r)⟩

/-- **What is known of a program on its own** holds of it after any history. -/
theorem Keeps.after {post : α → History S → Prop} (h₁ : History S) : ∀ (p : Prog S α) (h : History S), Keeps rule post p h →
    Keeps (fun h' o => ∃ own, h' = own ++ h₁ ∧ rule own o) (fun a h' => ∃ own, h' = own ++ h₁ ∧ post a own) p (h ++ h₁)
  | .pure _, h, hp => ⟨h, rfl, hp⟩
  | .call _ k, h, hp => ⟨⟨h, rfl, hp.1⟩, fun r => Keeps.after h₁ (k r) _ (hp.2 r)⟩

/-- Every operation of the program is of one kind. -/
def Only (kind : S.Op → Prop) : Prog S α → Prop
  | .pure _ => True
  | .call o k => kind o ∧ ∀ r, Only kind (k r)

theorem Only.bind {kind : S.Op → Prop} {f : α → Prog S β} (hf : ∀ a, Only kind (f a)) :
    ∀ p : Prog S α, Only kind p → Only kind (p >>= f)
  | .pure a, _ => hf a
  | .call _ k, hp => ⟨hp.1, fun r => Only.bind hf (k r) (hp.2 r)⟩

/-- A rule that allows one kind of operation only. -/
theorem Keeps.only {kind : S.Op → Prop} {post : α → History S → Prop} (hrule : ∀ h o, rule h o → kind o) :
    ∀ (p : Prog S α) (h : History S), Keeps rule post p h → Only kind p
  | .pure _, _, _ => trivial
  | .call o k, h, hp => ⟨hrule h o hp.1, fun r => Keeps.only hrule (k r) _ (hp.2 r)⟩

theorem Only.mono {kind kind' : S.Op → Prop} (h : ∀ o, kind o → kind' o) :
    ∀ p : Prog S α, Only kind p → Only kind' p
  | .pure _, _ => trivial
  | .call o k, hp => ⟨h o hp.1, fun r => Only.mono h (k r) (hp.2 r)⟩

/-- **Framing**: what operations of one kind leave alone, a program of that kind leaves alone. -/
theorem Only.keeps {kind : S.Op → Prop} {P : History S → Prop} (may : ∀ h o, kind o → P h → rule h o)
    (stable : ∀ h o r, kind o → P h → P (⟨o, r⟩ :: h)) :
    ∀ (p : Prog S α) (h : History S), Only kind p → P h → Keeps rule (fun _ => P) p h
  | .pure _, _, _, hP => hP
  | .call o k, h, hp, hP =>
    ⟨may h o hp.1 hP, fun r => Only.keeps may stable (k r) _ (hp.2 r) (stable h o r hp.1 hP)⟩

end Effects.Prog
