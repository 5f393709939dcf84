import ImageGateway.Proofs.Options.Asked
import ImageGateway.Proofs.Preset.Directives

/-! Bounds on the options. Every edit that a setting asks for keeps them, so that no sequence of
settings leads out of them, whatever came before. That a watermark shows exactly when it is not
fully transparent is kept by whole readings only, since the two are set one after the other. -/
namespace ImageGateway

theorem Binary.ne_nan_of_le {x y : Binary} (ordered : x ≤ y) : y ≠ .nan := by
  rintro rfl
  cases x <;> contradiction

theorem Binary.ne_nan_of_lt {x y : Binary} (below : x < y) : y ≠ .nan :=
  ne_nan_of_le (Bool.and_eq_true_iff.mp below).1

namespace Watermark

structure Bounded (w : Watermark) : Prop where
  opacity : 0 ≤ w.opacity ∧ w.opacity ≤ 1
  scale : 0 ≤ w.scale
  anchor : w.anchor ≠ .unknown ∧ w.anchor ≠ .smart ∧ w.anchor ≠ .focusPoint

/-- The watermark shows exactly when it is not fully transparent. -/
def Shown (w : Watermark) : Prop := w.enabled = decide (0 < w.opacity)

theorem Edit.Allowed.bounded {e : Edit} (allowed : e.Allowed) {w : Watermark}
    (bounded : w.Bounded) : (e.apply w).Bounded := by
  cases allowed with
  | enabled => exact { bounded with }
  | opacity least most => exact { bounded with opacity := ⟨least, most⟩ }
  | replicate => exact { bounded with }
  | anchor known notSmart notFocus => exact { bounded with anchor := ⟨known, notSmart, notFocus⟩ }
  | offsetX => exact { bounded with }
  | offsetY => exact { bounded with }
  | scale least => exact { bounded with scale := least }

end Watermark

theorem Gravity.Edit.Named.apply {e : Edit} (named : e.Named) {g : Gravity}
    (known : g.anchor ≠ .unknown) : (e.apply g).anchor ≠ .unknown := by
  cases e with
  | anchor a => exact fun same => named (congrArg Edit.anchor same)
  | x offset => exact known
  | y offset => exact known

structure Options.Bounded (canSave : ImageType → Bool) (o : Options) : Prop where
  quality : 1 ≤ o.quality ∧ o.quality ≤ 100
  dpr : 0 < o.dpr
  blur : 0 ≤ o.blur
  sharpen : 0 ≤ o.sharpen
  gravity : o.gravity.anchor ≠ .unknown
  format : o.format = .unknown ∨ canSave o.format = true
  watermark : o.watermark.Bounded

namespace Setting

variable {canSave : ImageType → Bool}

theorem Asks.bounded {s : Setting} {e : Edit} (asked : Asks canSave s e) {o : Options}
    (bounded : o.Bounded canSave) : (e.apply o).Bounded canSave := by
  induction asked with
  | format savable => exact { bounded with format := .inr savable }
  | resize _ _ ih => exact ih
  | size _ _ ih => exact ih
  | dpr positive => exact { bounded with dpr := positive }
  | gravity named => exact { bounded with gravity := named.apply bounded.gravity }
  | quality least most => exact { bounded with quality := ⟨least, most⟩ }
  | blur least => exact { bounded with blur := least }
  | sharpen least => exact { bounded with sharpen := least }
  | watermark allowed => exact { bounded with watermark := allowed.bounded bounded.watermark }
  | _ => exact { bounded with }

theorem Asks.watermark_apply {s : Setting} {e : Edit} (asked : Asks canSave s e)
    (other : s ≠ .watermark) (o : Options) : (e.apply o).watermark = o.watermark := by
  induction asked with
  | resize listed _ ih => exact ih (by rintro rfl; simp at listed)
  | size listed _ ih => exact ih (by rintro rfl; simp at listed)
  | watermark => contradiction
  | _ => rfl

theorem shown_readOpacity {arg : String} (sound : (readOpacity arg).fault = none) (o : Options) :
    ((readOpacity arg).applyTo o).state.watermark.Shown := by
  unfold readOpacity at sound ⊢
  split at sound
  next => exact absurd sound (Option.some_ne_none _)
  next => rfl

/-- The opacity is set first, and what follows it leaves it alone. -/
theorem shown_readWatermark {args : List String} (sound : (readWatermark args).fault = none)
    (o : Options) : ((readWatermark args).applyTo o).state.watermark.Shown := by
  let Keeps (e : Edit) : Prop := ∀ o, o.watermark.Shown → (e.apply o).watermark.Shown
  unfold readWatermark Reading.limited at sound ⊢
  split at sound
  next => exact absurd sound (Option.some_ne_none _)
  next allowed =>
    have opacity := (Reading.fault_all_cons.mp sound).1
    rw [if_neg allowed, Reading.state_all_cons opacity]
    refine Reading.Only.apply (P := Keeps) (Reading.only_all ?_) (fun _ keeps => keeps)
      (shown_readOpacity opacity o)
    simp only [List.forall_mem_cons]
    refine ⟨Reading.only_position fun arg => ?_,
      Reading.only_position fun _ => Reading.only_ofExcept fun _ _ _ shown => shown,
      Reading.only_position fun _ => Reading.only_ofExcept fun _ _ _ shown => shown,
      Reading.only_position fun _ => Reading.only_ofExcept fun _ _ _ shown => shown, by simp⟩
    unfold readPosition
    split
    next => exact Reading.only_edit fun _ shown => shown
    next => exact Reading.only_ofExcept fun _ _ _ shown => shown

end Setting

namespace Directive

variable {canSave : ImageType → Bool} {d : Directive} {o : Options}

theorem bounded_applyTo (d : Directive) (bounded : o.Bounded canSave) :
    ((d.read canSave).applyTo o).state.Bounded canSave :=
  (Setting.only_asks d.setting d.args).apply (fun _ asked _ => asked.bounded) bounded

theorem shown_applyTo (sound : (d.read canSave).fault = none) {w : Watermark}
    (shown : o.watermark = w ∨ o.watermark.Shown) :
    ((d.read canSave).applyTo o).state.watermark = w ∨
      ((d.read canSave).applyTo o).state.watermark.Shown := by
  by_cases asked : d.setting = .watermark
  · obtain ⟨setting, args⟩ := d
    subst asked
    exact .inr (Setting.shown_readWatermark sound o)
  · have kept : ((d.read canSave).applyTo o).state.watermark = o.watermark :=
      (Setting.only_asks d.setting d.args).apply
        (fun e ofSetting s same => (ofSetting.watermark_apply asked s).trans same) rfl
    rwa [kept]

theorem webp_applyTo (d : Directive) (o : Options) :
    ((d.read canSave).applyTo o).state.preferWebp = o.preferWebp ∧
      ((d.read canSave).applyTo o).state.enforceWebp = o.enforceWebp := by
  let Same (current : Options) : Prop :=
    current.preferWebp = o.preferWebp ∧ current.enforceWebp = o.enforceWebp
  refine (Setting.only_asks d.setting d.args).apply (I := Same) (fun e _ before kept => ?_)
    ⟨rfl, rfl⟩
  exact ⟨(e.preferWebp_apply before).trans kept.1, (e.enforceWebp_apply before).trans kept.2⟩

end Directive

namespace Options

variable {canSave : ImageType → Bool} {o : Options}

theorem bounded_baseline {quality : UInt8} (sound : 1 ≤ quality ∧ quality ≤ 100) :
    (baseline quality).Bounded canSave where
  quality := sound
  dpr := show (0 : Binary) < 1 by decide
  blur := show (0 : Binary) ≤ 0 by decide
  sharpen := show (0 : Binary) ≤ 0 by decide
  gravity := nofun
  format := .inl rfl
  watermark := ⟨show (0 : Binary) ≤ 1 ∧ (1 : Binary) ≤ 1 by decide,
    show (0 : Binary) ≤ 0 by decide, nofun, nofun, nofun⟩

theorem Bounded.ne_nan (bounded : o.Bounded canSave) :
    ∀ x ∈ [o.dpr, o.blur, o.sharpen, o.watermark.scale, o.watermark.opacity], x ≠ .nan := by
  simp only [List.forall_mem_cons]
  exact ⟨Binary.ne_nan_of_lt bounded.dpr, Binary.ne_nan_of_le bounded.blur,
    Binary.ne_nan_of_le bounded.sharpen, Binary.ne_nan_of_le bounded.watermark.scale,
    Binary.ne_nan_of_le bounded.watermark.opacity.1, by simp⟩

end Options
end ImageGateway
