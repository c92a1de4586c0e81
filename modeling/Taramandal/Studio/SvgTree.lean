import Taramandal.Studio.SvgMarkup

/-! # Drawings as trees

What a drawing shows is said of its tree: the contours of an element, moved by the transforms
that hold for it, then those of its children, then those of what follows. An element that is not
drawn is left out with all that it holds. The walk over the tags comes to the same. -/
set_option linter.unusedSectionVars false

namespace Taramandal.Studio.SvgTree

open Lib.Check Studio.Contours Studio.Layout Studio.SvgText Studio.SvgTransforms
open Studio.SvgWalk Studio.SvgMarkup
open Studio.VaultClient (isJsSpace)

def INNER : List (List Char) :=
  ["g", "defs", "title", "desc", "metadata", "path", "polygon", "polyline"].map String.toList

structure InnerTag extends Tag where
  kind_mem : toTag.kind ∈ INNER

/-- What stands in an element, one behind the other. -/
inductive Nodes where
  | nil
  | plain (text : PlainText) (rest : Nodes)
  | comment (text : CommentText) (rest : Nodes)
  | leaf (t : InnerTag) (rest : Nodes)
  | element (t : InnerTag) (children : Nodes) (space : Blank) (rest : Nodes)

def Nodes.lexemes : Nodes → List Lexeme
  | .nil => []
  | .plain text rest => .plain text :: rest.lexemes
  | .comment text rest => .comment text :: rest.lexemes
  | .leaf t rest => .opening t.toTag true :: rest.lexemes
  | .element t children space rest =>
    .opening t.toTag false :: (children.lexemes ++ .closing t.toTag space :: rest.lexemes)

def Nodes.Read : Nodes → Prop
  | .nil => True
  | .plain _ rest => rest.Read
  | .comment _ rest => rest.Read
  | .leaf t rest => t.toTag.Read ∧ rest.Read
  | .element t children _ rest => t.toTag.Read ∧ children.Read ∧ rest.Read

/-- What may stand outside of the root. -/
inductive Misc where
  | blank (b : Blank)
  | comment (text : CommentText)

lemma Blank.not_mem (b : Blank) : '<' ∉ b.chars := not_mem_of_unbracketed b.unbracketed

def Misc.lexeme : Misc → Lexeme
  | .blank b => .plain ⟨b.chars, Blank.not_mem b⟩
  | .comment text => .comment text

/-- A root and what it holds, if it is not closed at once. -/
structure Document where
  before : List Misc
  root : Tag
  content : Option (Nodes × Blank)
  after : List Misc
  root_svg : root.kind = "svg".toList

def Document.rootLexemes (doc : Document) : List Lexeme :=
  match doc.content with
  | none => [.opening doc.root true]
  | some (children, space) =>
    .opening doc.root false :: (children.lexemes ++ [.closing doc.root space])

def Document.text (doc : Document) : List Char :=
  (doc.before.map Misc.lexeme ++ (doc.rootLexemes ++ doc.after.map Misc.lexeme)).flatMap
    Lexeme.text

def Document.Read (doc : Document) : Prop :=
  doc.root.Read ∧ ∀ c ∈ doc.content, c.1.Read

/-! ## What a tree shows -/

def Skipped (t : Tag) : Prop := t.kind = "defs".toList ∨ isHiddenAttrs t.attrs = true
  deriving Decidable

section

variable {K : Type} [Field K]

section

variable (above : List (Matrix K))

/-- A point moved by the transforms of an element, and then by those above it. -/
def moved (p : PlanePoint K) : PlanePoint K := above.foldr applyMatrix p

def product : Matrix K := above.foldl multiplyMatrices IDENTITY_MATRIX

lemma moved_append (m : Matrix K) (p : PlanePoint K) : moved (above ++ [m]) p =
      applyMatrix (multiplyMatrices (product above) m) p := by
  have hfold : ∀ (above : List (Matrix K)) (m : Matrix K) (p : PlanePoint K),
      applyMatrix (above.foldl multiplyMatrices m) p = applyMatrix m (moved above p) := by
    intro above
    induction above with
    | nil => exact fun _ _ => rfl
    | cons a above ih =>
      intro m p
      rw [List.foldl_cons, ih, applyMatrix_multiply]
      rfl
  rw [applyMatrix_multiply, product, hfold, applyMatrix_identity]
  unfold moved
  rw [List.foldr_append]
  rfl

end

end

variable {K : Type} [Field K] [LinearOrder K] [FloorRing K] [Trig K]

def entered (v : Viewport K) (above : List (Matrix K)) (t : Tag) :
    Except String (Matrix K × List (List (PlanePoint K))) :=
  (parseTransform ((t.attrs.get "transform").getD [])).bind fun m =>
    (shapeOf t.kind t.attrs).map fun sub =>
      (m, sub.map fun pts => pts.map fun p => mapCoordinate v (moved (above ++ [m]) p))

def shown (v : Viewport K) (carries : Tag → Bool) (above : List (Matrix K)) (t : Tag)
    (children : List (Matrix K) → Except String (List (List (PlanePoint K)))) :
    Except String (List (List (PlanePoint K))) :=
  if Skipped t then .ok []
  else
    (entered v above t).bind fun own =>
      (children (if carries t then above ++ [own.1] else above)).map fun inner => own.2 ++ inner

/-- The contours of a tree, where the transforms of some elements carry over to what they
hold. -/
def Nodes.contours (v : Viewport K) (carries : Tag → Bool) : List (Matrix K) → Nodes →
    Except String (List (List (PlanePoint K)))
  | _, .nil => .ok []
  | above, .plain _ rest => rest.contours v carries above
  | above, .comment _ rest => rest.contours v carries above
  | above, .leaf t rest =>
    (shown v carries above t.toTag fun _ => .ok []).bind fun own =>
      (rest.contours v carries above).map fun more => own ++ more
  | above, .element t children _ rest =>
    (shown v carries above t.toTag fun inside => children.contours v carries inside).bind fun own =>
      (rest.contours v carries above).map fun more => own ++ more

def isGroup (t : Tag) : Bool := t.kind = "g".toList ∨ t.kind = "svg".toList

def Document.contours (v : Viewport K) (carries : Tag → Bool) (doc : Document) :
    Except String (List (List (PlanePoint K))) :=
  shown v carries [] doc.root fun inside =>
    match doc.content with
    | none => .ok []
    | some (children, _) => children.contours v carries inside

/-- What is made of a drawing: an error where it shows nothing. -/
def Document.meaning (carries : Tag → Bool) (doc : Document) : Except String (SvgContours K) := do
  let vb ← validateViewBox doc.text
  let v ← readViewport vb doc.text
  let contours ← doc.contours v carries
  if contours = [] then .error nothingDrawn else .ok ⟨contours, vb⟩

def Nodes.tags (nodes : Nodes) : List RawTag := nodes.lexemes.filterMap Lexeme.raw?

def openingOf (t : Tag) (isSelfClosing : Bool) : RawTag :=
  ⟨false, t.kind, t.attrsText ++ tagEnd isSelfClosing⟩

def closingOf (t : Tag) (space : Blank) : RawTag := ⟨true, t.kind, space.chars⟩

lemma tags_element (t : InnerTag) (children : Nodes) (space : Blank) (rest : Nodes) :
    (Nodes.element t children space rest).tags =
      openingOf t.toTag false :: (children.tags ++ closingOf t.toTag space :: rest.tags) := by
  show openingOf t.toTag false :: (children.lexemes ++ Lexeme.closing t.toTag space ::
    rest.lexemes).filterMap Lexeme.raw? = _
  rw [List.filterMap_append]
  rfl

lemma walk_append (v : Viewport K) (w : Walk K) (xs ys : List RawTag) :
    walk v w (xs ++ ys) = (walk v w xs).bind fun w => walk v w ys :=
  List.foldlM_append

lemma walk_cons (v : Viewport K) (w : Walk K) (t : RawTag) (ts : List RawTag) :
    walk v w (t :: ts) = (w.step v t).bind fun w => walk v w ts :=
  List.foldlM_cons

def add (w : Walk K) (contours : List (List (PlanePoint K))) : Walk K :=
  { w with contours := w.contours ++ contours }

lemma add_nil (w : Walk K) : add w [] = w := by
  unfold add
  rw [List.append_nil]

lemma add_add (w : Walk K) (xs ys : List (List (PlanePoint K))) :
    add (add w xs) ys = add w (xs ++ ys) := by
  unfold add
  rw [List.append_assoc]

variable {w : Walk K}

lemma walk_suppressed (v : Viewport K) {nodes : Nodes} (hread : nodes.Read)
    (h : 0 < w.suppressDepth) : walk v w nodes.tags = .ok w := by
  have hopening : ∀ {t : Tag}, t.Read → ∀ {w : Walk K}, 0 < w.suppressDepth → ∀ b,
      w.step v (openingOf t b) =
        .ok { w with suppressDepth := if b then w.suppressDepth else w.suppressDepth + 1 } := by
    intro t ht w hw b
    have hself : (openingOf t b).isSelfClosing = b := (attrs_of_opening ht b).1
    unfold Walk.step
    rw [if_pos hw, hself]
    rfl
  induction nodes generalizing w with
  | nil => rfl
  | plain text rest ih => exact ih hread h
  | comment text rest ih => exact ih hread h
  | leaf t rest ih =>
    refine (walk_cons v w _ _).trans ?_
    show (w.step v (openingOf t.toTag true)).bind _ = _
    rw [hopening hread.1 h]
    exact ih hread.2 h
  | element t children space rest ihchildren ih =>
    have hdepth : 0 < w.suppressDepth + 1 := Nat.succ_pos _
    rw [tags_element, walk_cons, hopening hread.1 h]
    show walk v { w with suppressDepth := w.suppressDepth + 1 } _ = _
    rw [walk_append, ihchildren hread.2.1 hdepth]
    refine (walk_cons v _ _ _).trans ?_
    have hclose : Walk.step v { w with suppressDepth := w.suppressDepth + 1 }
        (closingOf t.toTag space) = .ok w := if_pos hdepth
    rw [hclose]
    exact ih hread.2.2 h

/-! ## One tag -/

lemma supported_of_mem : ∀ kind ∈ "svg".toList :: INNER, kind ≠ "defs".toList →
    UNSUPPORTED_GEOMETRY.contains kind = false ∧
      (!SUPPORTED_DRAWABLE.contains kind && !STRUCTURAL.contains kind) = false := by
  decide +kernel

def seen (w : Walk K) (t : Tag) : Walk K :=
  if t.kind = "svg".toList then { w with sawRootSvg := true } else w

variable {t : Tag}

section

variable (v : Viewport K) (hread : t.Read) (hkind : t.kind ∈ "svg".toList :: INNER)
  (hsaw : t.kind = "svg".toList → w.sawRootSvg = false)
include hread hkind hsaw

lemma open_eq (b : Bool) : w.open v (openingOf t b) =
      if Skipped t then .ok (if b then seen w t else { seen w t with suppressDepth := 1 })
      else (seen w t).enter v t.kind b t.attrs := by
  obtain ⟨hself, hattrs⟩ := attrs_of_opening hread b
  have hself : (openingOf t b).isSelfClosing = b := hself
  have hattrs : (openingOf t b).attrs = t.attrs := hattrs
  have hroot : ¬ (t.kind = "svg".toList ∧ w.sawRootSvg = true) := by
    rintro ⟨hsvg, htrue⟩
    exact Bool.noConfusion ((hsaw hsvg).symm.trans htrue)
  unfold Walk.open
  rw [hself, hattrs]
  refine (if_neg hroot).trans ?_
  by_cases hskipped : Skipped t
  · rw [if_pos hskipped]
    exact if_pos hskipped
  · have hdefs : t.kind ≠ "defs".toList := fun h => hskipped (.inl h)
    obtain ⟨hknown, hsupported⟩ := supported_of_mem t.kind hkind hdefs
    rw [if_neg hskipped]
    refine (if_neg hskipped).trans ?_
    exact (if_neg (Bool.eq_false_iff.mp hknown)).trans (if_neg (Bool.eq_false_iff.mp hsupported))

lemma step_opening (hdepth : w.suppressDepth = 0) (b : Bool) : w.step v (openingOf t b) =
      if Skipped t then .ok (if b then seen w t else { seen w t with suppressDepth := 1 })
      else (seen w t).enter v t.kind b t.attrs := by
  rw [← open_eq v hread hkind hsaw b]
  unfold Walk.step
  rw [if_neg (by omega)]
  rfl

end

def inside (w : Walk K) (t : Tag) (m : Matrix K) : Walk K :=
  if t.kind = "g".toList then { w with pushed := multiplyMatrices w.currentMatrix m :: w.pushed }
  else w

lemma shapeOf_group {kind : List Char} (h : kind = "g".toList) (attrs : Attributes) :
    (shapeOf kind attrs : Except String (List (List (PlanePoint K)))) = .ok [] := by
  subst h
  rfl

variable {above : List (Matrix K)}

lemma enter_eq (v : Viewport K) (hsvg : t.kind ≠ "svg".toList)
    (hcurrent : w.currentMatrix = product above) (b : Bool) :
    w.enter v t.kind b t.attrs = (entered v above t).map fun own =>
      add (if b then w else inside w t own.1) own.2 := by
  unfold Walk.enter entered
  cases (parseTransform ((t.attrs.get "transform").getD []) : Except String (Matrix K)) with
  | error text => rfl
  | ok m =>
    show (if t.kind = "g".toList then _ else _) = ((shapeOf t.kind t.attrs).map _).map _
    by_cases hgroup : t.kind = "g".toList
    · rw [if_pos hgroup, shapeOf_group hgroup]
      show _ = Except.ok (add (if b then w else inside w t m) [])
      rw [add_nil]
      unfold inside
      rw [if_pos hgroup]
    · rw [if_neg hgroup, if_neg hsvg]
      have hinside : (if b then w else inside w t m) = w := by
        unfold inside
        rw [if_neg hgroup, ite_self]
      cases (shapeOf t.kind t.attrs : Except String (List (List (PlanePoint K)))) with
      | error text => rfl
      | ok sub =>
        show Except.ok _ = Except.ok (add (if b then w else inside w t m) _)
        rw [hinside]
        simp only [moved_append, hcurrent]
        rfl

lemma ne_svg_of_mem : ∀ kind ∈ INNER, kind ≠ "svg".toList := by
  decide +kernel

/-- The walk is inside of elements with these transforms, and none of them is left out. -/
structure At (w : Walk K) (above : List (Matrix K)) : Prop where
  depth : w.suppressDepth = 0
  saw : w.sawRootSvg = true
  current : w.currentMatrix = product above

lemma At.add (h : At w above) (contours : List (List (PlanePoint K))) : At (add w contours) above :=
  ⟨h.depth, h.saw, h.current⟩

lemma At.inside (h : At w above) (hsvg : t.kind ≠ "svg".toList) (m : Matrix K) :
    At (SvgTree.inside w t m) (if isGroup t then above ++ [m] else above) := by
  unfold SvgTree.inside isGroup
  by_cases hgroup : t.kind = "g".toList
  · rw [if_pos hgroup, if_pos (decide_eq_true (.inl hgroup))]
    refine ⟨h.depth, h.saw, ?_⟩
    show multiplyMatrices w.currentMatrix m = product (above ++ [m])
    rw [h.current, product, product, List.foldl_append]
    rfl
  · have hnot : ¬ (t.kind = "g".toList ∨ t.kind = "svg".toList) := fun h => h.elim hgroup hsvg
    rw [if_neg hgroup, decide_eq_false hnot]
    exact h

section

variable (v : Viewport K)

lemma step_close (hdepth : w.suppressDepth = 0) (t : Tag) (space : Blank) :
    w.step v (closingOf t space) = w.close t.kind := by
  unfold Walk.step
  rw [if_neg (not_lt.mpr hdepth.le)]
  rfl

lemma step_closing (hsvg : t.kind ≠ "svg".toList) (hdepth : w.suppressDepth = 0)
    (m : Matrix K) (space : Blank) (contours : List (List (PlanePoint K))) :
    (add (inside w t m) contours).step v (closingOf t space) = .ok (add w contours) := by
  have hinside : (inside w t m).suppressDepth = w.suppressDepth := by
    unfold inside
    split <;> rfl
  have hadd : (add (inside w t m) contours).suppressDepth = 0 := hinside.trans hdepth
  rw [step_close v hadd]
  by_cases hgroup : t.kind = "g".toList
  · have hpushed : inside w t m =
        { w with pushed := multiplyMatrices w.currentMatrix m :: w.pushed } := if_pos hgroup
    rw [hpushed]
    exact (if_pos (.inl hgroup)).trans (if_pos (List.cons_ne_nil _ _))
  · have hsame : inside w t m = w := if_neg hgroup
    rw [hsame]
    exact if_neg fun h => h.elim hgroup hsvg

lemma step_leaf (hw : At w above) {t : InnerTag} (hread : t.toTag.Read) :
    w.step v (openingOf t.toTag true) =
      (shown v isGroup above t.toTag fun _ => .ok []).map (add w) := by
  have hsvg := ne_svg_of_mem _ t.kind_mem
  have hseen : seen w t.toTag = w := if_neg hsvg
  rw [step_opening v hread (List.mem_cons_of_mem _ t.kind_mem) (fun h => absurd h hsvg) hw.depth,
    hseen]
  unfold shown
  by_cases hskipped : Skipped t.toTag
  · rw [if_pos hskipped, if_pos hskipped]
    exact congrArg Except.ok (add_nil w).symm
  · rw [if_neg hskipped, if_neg hskipped, enter_eq v hsvg hw.current]
    cases entered v above t.toTag with
    | error text => rfl
    | ok own =>
      show Except.ok (add w own.2) = Except.ok (add w (own.2 ++ []))
      rw [List.append_nil]

lemma walk_element (hw : At w above) {t : InnerTag} (hread : t.toTag.Read)
    {children : Nodes} (hchildren : children.Read)
    (hinner : ∀ {w : Walk K} {above : List (Matrix K)}, At w above →
      walk v w children.tags = (children.contours v isGroup above).map (add w)) (space : Blank)
    (rest : List RawTag) :
    walk v w (openingOf t.toTag false :: (children.tags ++ closingOf t.toTag space :: rest)) =
      (shown v isGroup above t.toTag fun inside => children.contours v isGroup inside).bind
        fun own => walk v (add w own) rest := by
  have hsvg := ne_svg_of_mem _ t.kind_mem
  have hseen : seen w t.toTag = w := if_neg hsvg
  rw [walk_cons, step_opening v hread (List.mem_cons_of_mem _ t.kind_mem)
    (fun h => absurd h hsvg) hw.depth, hseen]
  unfold shown
  by_cases hskipped : Skipped t.toTag
  · rw [if_pos hskipped, if_pos hskipped]
    show walk v { w with suppressDepth := 1 } _ = walk v (add w []) rest
    have hclose : Walk.step v { w with suppressDepth := 1 } (closingOf t.toTag space) = .ok w := by
      refine (if_pos Nat.one_pos).trans ?_
      show Except.ok { w with suppressDepth := 0 } = Except.ok w
      rw [← hw.depth]
    rw [walk_append, walk_suppressed v hchildren Nat.one_pos, add_nil]
    refine (walk_cons v _ _ _).trans ?_
    rw [hclose]
    rfl
  · rw [if_neg hskipped, if_neg hskipped, enter_eq v hsvg hw.current]
    cases entered v above t.toTag with
    | error text => rfl
    | ok own =>
      show walk v (add (inside w t.toTag own.1) own.2) _ = _
      rw [walk_append, hinner ((hw.inside hsvg own.1).add own.2)]
      show ((children.contours v isGroup _).map _).bind _ =
        ((children.contours v isGroup _).map _).bind _
      cases children.contours v isGroup (if isGroup t.toTag then above ++ [own.1] else above) with
      | error text => rfl
      | ok inner =>
        show walk v (add (add (inside w t.toTag own.1) own.2) inner) _ = walk v _ rest
        rw [add_add, walk_cons, step_closing v hsvg hw.depth]
        rfl

/-- The walk over what stands in an element adds its contours, and is where it was. -/
lemma walk_nodes {nodes : Nodes} (hread : nodes.Read) (hw : At w above) :
    walk v w nodes.tags = (nodes.contours v isGroup above).map (add w) := by
  induction nodes generalizing w above with
  | nil => exact congrArg Except.ok (add_nil w).symm
  | plain text rest ih => exact ih hread hw
  | comment text rest ih => exact ih hread hw
  | leaf t rest ih =>
    refine (walk_cons v w _ _).trans ?_
    show (w.step v (openingOf t.toTag true)).bind _ = _
    rw [step_leaf v hw hread.1, Nodes.contours]
    cases shown v isGroup above t.toTag fun _ => .ok [] with
    | error text => rfl
    | ok own =>
      show walk v (add w own) rest.tags = ((rest.contours v isGroup above).map _).map _
      rw [ih hread.2 (hw.add own)]
      cases rest.contours v isGroup above with
      | error text => rfl
      | ok more => exact congrArg Except.ok (add_add w own more)
  | element t children space rest ihchildren ih =>
    rw [tags_element, walk_element v hw hread.1 hread.2.1 (ihchildren hread.2.1), Nodes.contours]
    cases shown v isGroup above t.toTag fun inside => children.contours v isGroup inside with
    | error text => rfl
    | ok own =>
      show walk v (add w own) rest.tags = ((rest.contours v isGroup above).map _).map _
      rw [ih hread.2.2 (hw.add own)]
      cases rest.contours v isGroup above with
      | error text => rfl
      | ok more => exact congrArg Except.ok (add_add w own more)

end

/-! ## The root -/

def Document.rootTags (doc : Document) : List RawTag := doc.rootLexemes.filterMap Lexeme.raw?

lemma raw?_misc (ms : List Misc) : (ms.map Misc.lexeme).filterMap Lexeme.raw? = [] := by
  rw [List.filterMap_map]
  refine List.filterMap_eq_nil_iff.mpr fun m _ => ?_
  cases m <;> rfl

lemma tagsOf_text (doc : Document) : tagsOf doc.text = doc.rootTags := by
  unfold Document.text
  rw [tagsOf_lexemes, List.filterMap_append, List.filterMap_append, raw?_misc, raw?_misc,
    List.append_nil]
  rfl

def rooted (m : Matrix K) : Walk K := ⟨m, [], 0, true, []⟩

lemma step_root (v : Viewport K) (doc : Document) (hread : doc.root.Read) (b : Bool) :
    Walk.step v .start (openingOf doc.root b) =
      if Skipped doc.root then
        .ok (if b then rooted IDENTITY_MATRIX
          else { rooted IDENTITY_MATRIX with suppressDepth := 1 })
      else (entered v [] doc.root).map fun own => rooted own.1 := by
  have hsvg := doc.root_svg
  have hseen : seen (Walk.start : Walk K) doc.root = rooted IDENTITY_MATRIX := if_pos hsvg
  have hkind : doc.root.kind ∈ "svg".toList :: INNER := hsvg ▸ List.mem_cons_self
  rw [step_opening v hread hkind (fun _ => rfl) rfl b, hseen]
  by_cases hskipped : Skipped doc.root
  · rw [if_pos hskipped, if_pos hskipped]
  · rw [if_neg hskipped, if_neg hskipped]
    unfold Walk.enter entered
    rw [hsvg]
    cases (parseTransform ((doc.root.attrs.get "transform").getD []) :
      Except String (Matrix K)) with
    | error text => rfl
    | ok m =>
      show Except.ok (rooted (multiplyMatrices IDENTITY_MATRIX m)) = Except.ok (rooted m)
      rw [identity_multiply]

lemma entered_root {v : Viewport K} (doc : Document)
    {own : Matrix K × List (List (PlanePoint K))} (h : entered v [] doc.root = .ok own) :
    own.2 = [] := by
  unfold entered at h
  rw [doc.root_svg] at h
  obtain ⟨m, -, hm⟩ := bind_eq_ok.mp h
  obtain ⟨sub, hsub, rfl⟩ := map_eq_ok.mp hm
  obtain rfl := Except.ok.inj hsub
  rfl

lemma walk_root (v : Viewport K) {doc : Document} (hread : doc.Read) :
    (walk v .start doc.rootTags).map Walk.contours = doc.contours v isGroup := by
  obtain ⟨before, root, content, after, hsvg⟩ := doc
  let doc : Document := ⟨before, root, content, after, hsvg⟩
  have hgroup : isGroup root = true := decide_eq_true (.inr hsvg)
  cases content with
  | none =>
    show (walk v .start [openingOf root true]).map Walk.contours =
      shown v isGroup [] root fun _ => .ok []
    rw [walk_cons, step_root v doc hread.1 true]
    unfold shown
    by_cases hskipped : Skipped root
    · rw [if_pos hskipped, if_pos hskipped]
      rfl
    · rw [if_neg hskipped, if_neg hskipped]
      cases hentered : entered v [] root with
      | error text => rfl
      | ok own =>
        have hnone := entered_root doc hentered
        show Except.ok [] = Except.ok (own.2 ++ [])
        rw [hnone]
        rfl
  | some content =>
    obtain ⟨children, space⟩ := content
    have hchildren : children.Read := hread.2 _ rfl
    have htags : Document.rootTags ⟨before, root, some (children, space), after, hsvg⟩ =
        openingOf root false :: (children.tags ++ [closingOf root space]) := by
      show openingOf root false :: (children.lexemes ++ [Lexeme.closing root space]).filterMap
        Lexeme.raw? = _
      rw [List.filterMap_append]
      rfl
    have hclosing : ∀ w : Walk K, w.suppressDepth = 0 → w.pushed = [] →
        w.step v (closingOf root space) = .ok w := by
      intro w hdepth hpushed
      rw [step_close v hdepth]
      refine (if_pos (.inr hsvg)).trans ((if_neg (not_not.mpr hpushed)).trans (if_neg ?_))
      rw [hsvg]
      decide
    show _ = shown v isGroup [] root fun inside => children.contours v isGroup inside
    rw [htags, walk_cons, step_root v doc hread.1 false]
    unfold shown
    by_cases hskipped : Skipped root
    · rw [if_pos hskipped, if_pos hskipped]
      show (walk v { rooted IDENTITY_MATRIX with suppressDepth := 1 } _).map _ = _
      rw [walk_append, walk_suppressed v hchildren Nat.one_pos]
      rfl
    · rw [if_neg hskipped, if_neg hskipped]
      cases hentered : entered v [] root with
      | error text => rfl
      | ok own =>
        have hnone := entered_root doc hentered
        have hinside : At (rooted own.1) (if isGroup root then [] ++ [own.1] else []) := by
          rw [hgroup]
          refine ⟨rfl, rfl, ?_⟩
          show own.1 = multiplyMatrices IDENTITY_MATRIX own.1
          rw [identity_multiply]
        show (walk v (rooted own.1) _).map _ = (children.contours v isGroup _).map _
        rw [walk_append, walk_nodes v hchildren hinside, hnone]
        cases children.contours v isGroup (if isGroup root then [] ++ [own.1] else []) with
        | error text => rfl
        | ok inner =>
          show (walk v (add (rooted own.1) inner) [closingOf root space]).map _ = _
          rw [walk_cons, hclosing _ rfl rfl]
          rfl

def noBlank : Blank := ⟨[], nofun⟩

def oneBlank : Blank := ⟨[' '], List.all_eq_true.mp rfl⟩

/-- ` transform='translate(5 0)'`. -/
def movedBy5 : Attribute where
  space := oneBlank
  name := "transform".toList
  beforeSign := noBlank
  behindSign := noBlank
  quote := '\''
  value := "translate(5 0)".toList
  space_ne := by decide
  name_plain := by decide
  quote_isQuote := by decide
  value_plain := @of_decide_eq_true _ (List.decidableBAll _ _) rfl

/-- ` d='M0 0L1 0'`, under one name or another. -/
def line (name : List Char) (h : name ≠ [] ∧ name.all isPlainChar = true) : Attribute where
  space := oneBlank
  name := name
  beforeSign := noBlank
  behindSign := noBlank
  quote := '\''
  value := "M0 0L1 0".toList
  space_ne := by decide
  name_plain := h
  quote_isQuote := by decide
  value_plain := @of_decide_eq_true _ (List.decidableBAll _ _) rfl

def plainRoot : Tag := ⟨"svg".toList, [], noBlank, nofun, List.all_eq_true.mp rfl⟩

def pathTag (name : List Char) (h : name ≠ [] ∧ name.all isPlainChar = true) : InnerTag where
  name := "path".toList
  attributes := [line name h]
  space := noBlank
  name_chars := ⟨nofun, List.all_eq_true.mp rfl⟩
  kind_mem := (by decide : toLowerCase "path".toList ∈ INNER)

def lineIn (name : List Char) (h : name ≠ [] ∧ ∀ c ∈ name, isNameChar c = true)
    (hmem : toLowerCase name ∈ INNER) : Document where
  before := []
  root := plainRoot
  content := some (.element ⟨⟨name, [movedBy5], noBlank, h⟩, hmem⟩
    (.leaf (pathTag "d".toList (by decide)) .nil) noBlank .nil, noBlank)
  after := []
  root_svg := by decide

/-- `<svg><title transform='translate(5 0)'><path d='M0 0L1 0'/></title></svg>`. -/
def lineInTitle : Document := lineIn "title".toList ⟨nofun, List.all_eq_true.mp rfl⟩ (by decide)

def lineInGroup : Document := lineIn "g".toList ⟨nofun, List.all_eq_true.mp rfl⟩ (by decide)

/-- `<svg><path x_d='M0 0L1 0'/></svg>`. -/
def lineOfAnotherName : Document where
  before := []
  root := plainRoot
  content := some (.leaf (pathTag "x_d".toList (by decide)) .nil, noBlank)
  after := []
  root_svg := by decide

@[reducible] def noTurns : Trig ℚ := ⟨0, fun _ => 1, fun _ => 0, fun _ => 0⟩

/-! ## The whole -/

lemma head?_trim (cs : List Char) : (trim cs).head? = (cs.dropWhile isJsSpace).head? := by
  have hnot := List.head?_dropWhile_not isJsSpace cs
  unfold trim
  cases hdrop : cs.dropWhile isJsSpace with
  | nil => rfl
  | cons c rest =>
    rw [hdrop] at hnot
    have hc : ¬ isJsSpace c = true := by simpa using hnot
    rw [List.reverse_cons, List.dropWhile_append, List.dropWhile_cons_of_neg hc]
    split
    · rfl
    · rw [List.reverse_append]
      rfl

lemma head?_text (doc : Document) : (trim doc.text).head? = some '<' := by
  have hbracket : ∀ rest : List Char, (('<' :: rest).dropWhile isJsSpace).head? = some '<' := by
    intro rest
    rw [List.dropWhile_cons_of_neg (by decide)]
    rfl
  have hroot : ∀ after : List Lexeme,
      ∃ rest, (doc.rootLexemes ++ after).flatMap Lexeme.text = '<' :: rest := by
    intro after
    unfold Document.rootLexemes
    split
    · exact ⟨_, rfl⟩
    · exact ⟨_, rfl⟩
  obtain ⟨rest, hrest⟩ := hroot (doc.after.map Misc.lexeme)
  unfold Document.text
  rw [head?_trim, List.flatMap_append, hrest]
  induction doc.before with
  | nil => exact hbracket rest
  | cons m before ih =>
    cases m with
    | blank b =>
      show ((b.chars ++ (before.map Misc.lexeme).flatMap Lexeme.text ++ '<' :: rest).dropWhile
        isJsSpace).head? = _
      rw [List.append_assoc, List.dropWhile_append_of_pos b.blank]
      exact ih
    | comment text => exact hbracket _

/-- What is made of the text of a drawing is what its tree means, if the transforms of the root
and of the groups carry over. -/
theorem parseSvgToContours_text (doc : Document) (hread : doc.Read)
    (hsafe : sanitizeSvg doc.text = .ok doc.text) :
    parseSvgToContours doc.text = (doc.meaning isGroup : Except String (SvgContours K)) := by
  have hpath : ¬ ((trim doc.text).head? = some 'M' ∨ (trim doc.text).head? = some 'm') := by
    rw [head?_text]
    decide
  unfold parseSvgToContours Document.meaning
  rw [hsafe]
  show (validateViewBox doc.text).bind _ = (validateViewBox doc.text).bind _
  refine congrArg _ (funext fun vb => ?_)
  rw [if_neg hpath]
  refine congrArg _ (funext fun v => ?_)
  rw [tagsOf_text, ← walk_root v hread]
  cases walk v .start doc.rootTags with
  | error text => rfl
  | ok w => rfl

theorem parseSvgToContours_text_group : @parseSvgToContours ℚ _ _ _ noTurns lineInGroup.text =
      @Document.meaning ℚ _ _ _ noTurns isGroup lineInGroup :=
  @parseSvgToContours_text ℚ _ _ _ noTurns lineInGroup
    ⟨fun a ha => absurd ha List.not_mem_nil, by
      rintro c ⟨⟩
      refine ⟨?_, ⟨?_, trivial⟩, trivial⟩
      · exact List.forall_mem_singleton.mpr (List.all_eq_true.mp rfl)
      · exact List.forall_mem_singleton.mpr (List.all_eq_true.mp rfl)⟩
    (by decide +kernel)

/-- The transform of a title is not applied to what it holds; and of a name with an underscore
only the end is read. -/
theorem title_transform_ignored : sanitizeSvg lineInTitle.text = .ok lineInTitle.text ∧
    @parseSvgToContours ℚ _ _ _ noTurns lineInTitle.text = .ok ⟨[[⟨0, 0⟩, ⟨1, 0⟩]], none⟩ ∧
    @Document.meaning ℚ _ _ _ noTurns (fun _ => true) lineInTitle =
      .ok ⟨[[⟨5, 0⟩, ⟨6, 0⟩]], none⟩ ∧
    sanitizeSvg lineOfAnotherName.text = .ok lineOfAnotherName.text ∧
    @parseSvgToContours ℚ _ _ _ noTurns lineOfAnotherName.text =
      .ok ⟨[[⟨0, 0⟩, ⟨1, 0⟩]], none⟩ ∧
    @Document.meaning ℚ _ _ _ noTurns (fun _ => true) lineOfAnotherName = .error nothingDrawn := by
  decide +kernel

end Taramandal.Studio.SvgTree
