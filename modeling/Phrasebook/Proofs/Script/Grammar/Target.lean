import Phrasebook.Proofs.Script.Laid
import Phrasebook.Script.Grammar.Target

/-!
Expressions that are read again as patterns keep their literals.
-/

namespace Phrasebook.Script

variable {text : List Char} {α β : Type}

theorem Content.sound_bind [Content α] [Content β] {x : Except SyntaxError α}
    {f : α → Except SyntaxError β} (first : Content.Sound text x)
    (rest : ∀ a, Content.Sound text a → Content.Sound text (f a)) :
    Content.Sound text (x >>= f) := by
  intro b done
  cases x with
  | error e => cases done
  | ok a => exact rest a (first a rfl) b done

theorem Content.sound_ok [Content α] {a : α} [fine : Fine text a] :
    Content.Sound text (.ok a : Except SyntaxError α) :=
  fun _ same => Except.ok.inj same ▸ fine.sound

theorem Content.sound_error [Content α] {e : SyntaxError} :
    Content.Sound text (.error e : Except SyntaxError α) :=
  fun _ same => nomatch same

namespace Tree

open Content

mutual

theorem sound_asPattern {role : TargetRole} : ∀ tree : Tree, tree.Sound text →
    Content.Sound text (tree.asPattern role)
  | tree => fun sound => by
    have whole : Fine text tree := ⟨sound⟩
    unfold asPattern
    split
    case h_1 =>
      refine sound_bind (sound_propertyPatterns _ sound.parts) fun a fine => ?_
      have : Fine text a := ⟨fine⟩
      exact sound_ok
    case h_2 =>
      refine sound_bind (sound_elementPatterns _ sound.parts) fun a fine => ?_
      have : Fine text a := ⟨fine⟩
      exact sound_ok
    case h_3 left right =>
      have : Fine text right := ⟨sound.parts _ (by simp)⟩
      split
      · exact sound_ok
      · refine sound_bind (sound_asPattern _ (sound.parts _ List.mem_cons_self)) fun a fine => ?_
        have : Fine text a := ⟨fine⟩
        exact sound_ok
    case h_4 =>
      split <;> exact sound_ok
    case h_5 => exact sound_ok
    case h_6 => exact sound_ok
    case h_7 => split <;> exact sound_ok

theorem sound_elementPatterns {role : TargetRole} : ∀ trees : List Tree,
    (∀ tree ∈ trees, tree.Sound text) → Content.Sound text (elementPatterns role trees)
  | trees => fun sound => by
    unfold elementPatterns
    split
    case h_1 => exact sound_ok
    case h_2 =>
      split
      · refine sound_bind (sound_asPattern _
          ((sound _ List.mem_cons_self).parts _ List.mem_cons_self)) fun a fine => ?_
        have : Fine text a := ⟨fine⟩
        exact sound_ok
      · exact sound_elementPatterns _ fun t m => sound _ (List.mem_cons_of_mem _ m)
    case h_3 =>
      have : Fine text (node .hole _ _) := ⟨sound _ List.mem_cons_self⟩
      split
      · exact sound_ok
      · refine sound_bind (sound_elementPatterns _ fun t m =>
          sound _ (List.mem_cons_of_mem _ m)) fun a fine => ?_
        have : Fine text a := ⟨fine⟩
        exact sound_ok
    case h_4 =>
      refine sound_bind (sound_asPattern _ (sound _ List.mem_cons_self)) fun a fine => ?_
      refine sound_bind (sound_elementPatterns _ fun t m =>
        sound _ (List.mem_cons_of_mem _ m)) fun b more => ?_
      have : Fine text a := ⟨fine⟩
      have : Fine text b := ⟨more⟩
      exact sound_ok

theorem sound_propertyPatterns {role : TargetRole} : ∀ trees : List Tree,
    (∀ tree ∈ trees, tree.Sound text) → Content.Sound text (propertyPatterns role trees)
  | [] => fun _ => sound_ok
  | tree :: rest => fun sound => by
    unfold propertyPatterns
    refine sound_bind (sound_propertyPattern _ (sound _ List.mem_cons_self)) fun a fine => ?_
    refine sound_bind (sound_propertyPatterns _ fun t m =>
      sound _ (List.mem_cons_of_mem _ m)) fun b more => ?_
    have : Fine text a := ⟨fine⟩
    have : Fine text b := ⟨more⟩
    exact sound_ok

theorem sound_propertyPattern {role : TargetRole} : ∀ tree : Tree, tree.Sound text →
    Content.Sound text (propertyPattern role tree)
  | tree => fun sound => by
    unfold propertyPattern
    split
    · exact sound_ok
    · rename_i parts
      have : Fine text parts := ⟨sound.parts⟩
      exact sound_ok
    · rename_i key value
      have : Fine text key := ⟨sound.parts _ (by simp)⟩
      refine sound_bind (sound_asPattern _ (sound.parts _ (by simp))) fun a fine => ?_
      have : Fine text a := ⟨fine⟩
      exact sound_ok
    · split
      · exact sound_ok
      · exact sound_ok
      · refine sound_bind (sound_asPattern _ (sound.parts _ (by simp))) fun a fine => ?_
        have : Fine text a := ⟨fine⟩
        exact sound_ok
    · exact sound_error

end

theorem sound_asTarget {operator : Mark} {tree : Tree} (sound : tree.Sound text) :
    Content.Sound text (tree.asTarget operator) := by
  have : Fine text tree := ⟨sound⟩
  unfold asTarget
  split
  · refine sound_bind (sound_asPattern _ sound) fun target fine => ?_
    have : Fine text target := ⟨fine⟩
    split
    · exact sound_ok
    · exact sound_ok
    · exact sound_ok
    · split
      · exact sound_ok
      · exact sound_error
  · split
    · exact sound_ok
    · exact sound_error

end Tree
end Phrasebook.Script
