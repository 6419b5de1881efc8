import LiveConfig.Proofs.Store.Confined
import LiveConfig.Service.Reload
/-!
Services whose hooks and updaters only look at the store.

They tell what they saw, fail and panic, and load nothing, write nothing and register nothing.
-/

set_option autoImplicit false

namespace LiveConfig

namespace Service

def tree : Focus Outside FileTree where
  get := fun o => o.streams.files
  set := fun t o => { o with streams := { o.streams with files := t } }

theorem lawful_tree : tree.Lawful := ⟨fun _ _ => rfl⟩

def Reaction.looks : Reaction → Bool
  | .look _ _ loads => !loads
  | .panicOn _ => true

def Updater.looks : Updater → Bool
  | .job _ _ (.load _) | .job _ _ (.push _) | .follower _ => false
  | .job _ _ _ => true

theorem confined {r : Registry vocabulary}
    (hooks : (r.before ++ r.after).all Reaction.looks = true)
    (updaters : r.updaters.all Updater.looks = true) : host.Confined tree r where
  reads := fun _ _ => rfl
  revises := fun k _ => ⟨fun m => .ok (k.apply m), fun _ s => ⟨rfl, .refl s⟩⟩
  hooks := by
    intro k hk s
    have hlooks : Reaction.looks k = true :=
      List.all_eq_true.mp hooks k (List.mem_append.mpr hk)
    cases k with
    | look tag key loads =>
        cases loads with
        | true => exact absurd hlooks Bool.false_ne_true
        | false => exact ⟨rfl, rfl⟩
    | panicOn key =>
        change Spares tree s (react (.panicOn key) s).2
        simp only [react]
        split <;> exact .refl s
  updaters := by
    intro u hu s
    have hlooks : Updater.looks u = true := List.all_eq_true.mp updaters u hu
    cases u with
    | follower place => exact absurd hlooks Bool.false_ne_true
    | job tag name job =>
        have htell : Spares tree s (Service.tell s (.updated tag)) := ⟨rfl, rfl⟩
        refine htell.trans ?_
        change Spares tree _ (perform job (Service.tell s (.updated tag))).2
        generalize Service.tell s (.updated tag) = s'
        cases job with
        | load text => exact absurd hlooks Bool.false_ne_true
        | push tag' => exact absurd hlooks Bool.false_ne_true
        | nothing | fail message => exact .refl s'
        | read key =>
            simp only [perform]
            split
            · exact .refl s'
            · exact ⟨rfl, rfl⟩
        | decode =>
            simp only [perform]
            split
            · exact .refl s'
            · exact ⟨rfl, rfl⟩
  handlers := fun _ _ _ _ => ⟨rfl, rfl⟩
  notes := fun _ _ => ⟨rfl, rfl⟩

end Service

end LiveConfig
