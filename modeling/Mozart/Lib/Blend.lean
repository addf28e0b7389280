import Mathlib.Tactic.Ring

/-!
# Premultiplied blending

A colour carries its coverage `a`, and its other components are multiplied by it already. Drawing
a colour over another is then linear, which makes the drawing of a stack of layers associative:
a part of the stack can be drawn beforehand, onto nothing, and laid over the rest later.

* **`Color.onto`** is the blending function; `onto_assoc` and the two unit laws make the colours
  a monoid with the transparent colour as unit.
* **`Color.compose`** draws a stack, bottom first. **`compose_append`** splits it anywhere;
  **`compose_of_isOpaque`** says that nothing shows through an opaque layer.
-/

/-- A premultiplied colour. -/
@[ext]
structure Color (R : Type*) where
  r : R
  g : R
  b : R
  a : R
deriving DecidableEq

namespace Color

variable {R : Type*} [CommRing R]

/-- Nothing at all. -/
def transparent : Color R := ⟨0, 0, 0, 0⟩

def black : Color R := ⟨0, 0, 0, 1⟩

/-- Draw `c` onto `d`: what `c` covers of `d` is hidden. -/
def onto (c d : Color R) : Color R :=
  ⟨c.r + (1 - c.a) * d.r, c.g + (1 - c.a) * d.g, c.b + (1 - c.a) * d.b, c.a + (1 - c.a) * d.a⟩

def IsOpaque (c : Color R) : Prop := c.a = 1

theorem onto_assoc (c d e : Color R) : (c.onto d).onto e = c.onto (d.onto e) := by
  ext
  all_goals
    simp only [onto]
    ring

theorem transparent_onto (c : Color R) : transparent.onto c = c := by
  ext <;> simp [onto, transparent]

theorem onto_transparent (c : Color R) : c.onto transparent = c := by
  ext <;> simp [onto, transparent]

theorem IsOpaque.onto {c : Color R} (h : c.IsOpaque) (d : Color R) : c.onto d = c := by
  have hcover : 1 - c.a = 0 := sub_eq_zero.mpr h.symm
  ext <;> simp [Color.onto, hcover]

/-! ## Stacks of layers -/

/-- Draw a stack of layers, the bottom one first, onto `below`. -/
def drawOnto (below : Color R) (layers : List (Color R)) : Color R :=
  layers.foldl (fun below layer => layer.onto below) below

/-- A stack of layers drawn onto nothing. -/
def compose (layers : List (Color R)) : Color R := drawOnto transparent layers

/-- Drawing onto a colour is drawing onto nothing and laying the result over it. -/
theorem drawOnto_eq (below : Color R) (layers : List (Color R)) :
    drawOnto below layers = (compose layers).onto below := by
  induction layers generalizing below with
  | nil => exact (transparent_onto below).symm
  | cons layer layers ih =>
    have hhead : compose (layer :: layers) = drawOnto (layer.onto transparent) layers := rfl
    calc drawOnto below (layer :: layers)
        = drawOnto (layer.onto below) layers := rfl
      _ = (compose layers).onto (layer.onto below) := ih _
      _ = ((compose layers).onto layer).onto below := (onto_assoc ..).symm
      _ = (compose (layer :: layers)).onto below := by rw [hhead, onto_transparent, ih layer]

theorem compose_append (lower upper : List (Color R)) :
    compose (lower ++ upper) = (compose upper).onto (compose lower) := by
  rw [compose, drawOnto, List.foldl_append, ← drawOnto, ← drawOnto, drawOnto_eq]
  rfl

theorem compose_cons (layer : Color R) (upper : List (Color R)) :
    compose (layer :: upper) = (compose upper).onto layer := by
  have hlayer : compose [layer] = layer := onto_transparent layer
  rw [← List.singleton_append, compose_append, hlayer]

theorem compose_transparent (lower upper : List (Color R)) :
    compose (lower ++ transparent :: upper) = compose (lower ++ upper) := by
  rw [compose_append, compose_cons, onto_transparent, ← compose_append]

/-- **Nothing shows through an opaque layer**, whatever is below it. -/
theorem compose_of_isOpaque {layer : Color R} (h : layer.IsOpaque)
    (lower upper : List (Color R)) :
    compose (lower ++ layer :: upper) = (compose upper).onto layer := by
  rw [compose_append, compose_cons, onto_assoc, h.onto]

end Color
