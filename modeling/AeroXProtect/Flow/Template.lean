import AeroXProtect.Lib.Substitute
import AeroXProtect.Lib.Text
import Mathlib

/-!
# Templates in node parameters

Before a node is executed, its parameters are rendered: each template in a string names a path in
the variables of the run (`lookup`). A string that is one template becomes the value itself, in any
other the templates are replaced by texts, in one pass (`template`, `Lib.Matcher.sub`). `Rendered`
says what becomes of a value, by the parts of its strings, which do not depend on the variables: so
a text that comes from them is never taken for a template (`render_single_pass`).
-/

open Lib

namespace AeroXProtect.Flow

/-! ## Values -/

/-- A value of the types that JSON has in Python, with numbers of the type `ν`. -/
inductive Value (ν : Type)
  | null
  | bool (b : Bool)
  | num (n : ν)
  | str (s : String)
  | arr (items : List (Value ν))
  | obj (fields : List (String × Value ν))

/-- How a number is written by `str` and by `json.dumps`. -/
structure NumText (ν : Type) where
  str : ν → String
  json : ν → String

/-- A character in a string of `json.dumps(.., ensure_ascii=False)`. -/
def escapeChar (c : Char) : List Char :=
  match c with
  | '\x22' => ['\x5c', '\x22']
  | '\x5c' => ['\x5c', '\x5c']
  | '\x0a' => ['\x5c', 'n']
  | '\x0d' => ['\x5c', 'r']
  | '\x09' => ['\x5c', 't']
  | '\x0c' => ['\x5c', 'f']
  | '\x08' => ['\x5c', 'b']
  | c =>
    if c.toNat < 0x20 then
      ['\x5c', 'u', '0', '0', Nat.digitChar (c.toNat / 16), Nat.digitChar (c.toNat % 16)]
    else [c]

def dumpsStr (s : String) : List Char := '\x22' :: (s.toList.flatMap escapeChar ++ ['\x22'])

section
variable {ν : Type} (nt : NumText ν)

mutual

/-- `json.dumps(v, ensure_ascii=False)` -/
def dumps : Value ν → List Char
  | .null => "null".toList
  | .bool b => (if b then "true" else "false").toList
  | .num n => (nt.json n).toList
  | .str s => dumpsStr s
  | .arr items => '[' :: ([',', ' '].intercalate (dumpsItems items) ++ [']'])
  | .obj fields => '\x7b' :: ([',', ' '].intercalate (dumpsFields fields) ++ ['\x7d'])

def dumpsItems : List (Value ν) → List (List Char)
  | [] => []
  | v :: items => dumps v :: dumpsItems items

def dumpsFields : List (String × Value ν) → List (List Char)
  | [] => []
  | (k, v) :: fields => (dumpsStr k ++ [':', ' '] ++ dumps v) :: dumpsFields fields

end

/-- `_fmt` -/
def fmt : Value ν → List Char
  | .null => []
  | .arr items => dumps nt (.arr items)
  | .obj fields => dumps nt (.obj fields)
  | .bool b => (if b then "True" else "False").toList
  | .num n => (nt.str n).toList
  | .str s => s.toList

/-- `_lookup`: a part of the path that is looked up in anything but a dictionary gives `None`, and
so do all parts after it. -/
def lookup (path : List Char) (ctx : Value ν) : Value ν :=
  (path.splitOn '.').foldl (fun cur part =>
    match cur with
    | .obj fields => (fields.lookup (String.ofList part)).getD .null
    | _ => .null) ctx

end

/-! ## Templates -/

/-- `[A-Za-z0-9_.\-]` -/
def isPathChar (c : Char) : Bool := c.isAlphanum || c == '_' || c == '.' || c == '-'

/-- The text `src` is a match of `_TPL`, with the path as its group. -/
def IsTemplate (src path : List Char) : Prop :=
  ∃ w₁ w₂, src = '\x7b' :: '\x7b' :: (w₁ ++ (path ++ (w₂ ++ ['\x7d', '\x7d']))) ∧
    (∀ c ∈ w₁, Lib.isSpace c = true) ∧ (∀ c ∈ w₂, Lib.isSpace c = true) ∧
    path ≠ [] ∧ ∀ c ∈ path, isPathChar c = true

/-- A match of `_TPL` at the start of a text, and the text behind it. The runs of spaces and of path
characters are as long as they can be: the expression goes on with what is in neither. -/
def matchTpl (s : List Char) : Option (List Char × List Char) :=
  match s with
  | '\x7b' :: '\x7b' :: s =>
    let s := s.dropWhile Lib.isSpace
    let path := s.takeWhile isPathChar
    match path, (s.dropWhile isPathChar).dropWhile Lib.isSpace with
    | _ :: _, '\x7d' :: '\x7d' :: rest => some (path, rest)
    | _, _ => none
  | _ => none

/-- A run of characters that satisfy `p`, before a text that does not start with one. -/
theorem span_append {p : Char → Bool} {w t : List Char} (hw : ∀ c ∈ w, p c = true)
    (ht : ∀ c ∈ t.head?, p c = false) :
    (w ++ t).takeWhile p = w ∧ (w ++ t).dropWhile p = t := by
  induction w with
  | nil =>
    cases t with
    | nil => exact ⟨rfl, rfl⟩
    | cons c t => simp [ht c rfl]
  | cons a w ih =>
    obtain ⟨ha, hw⟩ := List.forall_mem_cons.1 hw
    obtain ⟨h₁, h₂⟩ := ih hw
    simp [ha, h₁, h₂]

theorem toNat_of_isPathChar {c : Char} (h : isPathChar c = true) :
    45 ≤ c.toNat ∧ c.toNat ≤ 122 := by
  simp only [isPathChar, Char.isAlphanum, Char.isAlpha, Char.isUpper, Char.isLower, Char.isDigit,
    Bool.or_eq_true, Bool.and_eq_true, decide_eq_true_eq, beq_iff_eq, ge_iff_le,
    UInt32.le_iff_toNat_le] at h
  rcases h with ((((h | h) | h) | rfl) | rfl) | rfl
  · exact ⟨Nat.le_trans (by decide) h.1, Nat.le_trans h.2 (by decide)⟩
  · exact ⟨Nat.le_trans (by decide) h.1, Nat.le_trans h.2 (by decide)⟩
  · exact ⟨Nat.le_trans (by decide) h.1, Nat.le_trans h.2 (by decide)⟩
  all_goals decide

theorem not_isSpace_of_isPathChar {c : Char} (h : isPathChar c = true) : Lib.isSpace c = false := by
  have hrange := toNat_of_isPathChar h
  rw [Lib.isSpace, decide_eq_false_iff_not]
  omega

section
variable {s src path rest : List Char}

/-- The search finds the matches at the start of a text. -/
theorem matchTpl_iff : matchTpl s = some (path, rest) ↔
    ∃ src, IsTemplate src path ∧ s = src ++ rest := by
  constructor
  · intro h
    simp only [matchTpl] at h
    split at h
    · next s =>
      split at h
      · next hpath hrest =>
        cases h
        refine ⟨_, ⟨s.takeWhile Lib.isSpace,
          ((s.dropWhile Lib.isSpace).dropWhile isPathChar).takeWhile
          Lib.isSpace, rfl, fun c => List.mem_takeWhile_imp, fun c => List.mem_takeWhile_imp, ?_,
          fun c => List.mem_takeWhile_imp⟩, ?_⟩
        · rw [hpath]
          exact List.cons_ne_nil _ _
        · simp only [List.cons_append, List.append_assoc, List.nil_append]
          rw [← hrest, List.takeWhile_append_dropWhile, List.takeWhile_append_dropWhile,
            List.takeWhile_append_dropWhile]
      · cases h
    · cases h
  · rintro ⟨_, ⟨w₁, w₂, rfl, hw₁, hw₂, hne, hpath⟩, rfl⟩
    obtain ⟨c, path', rfl⟩ := List.exists_cons_of_ne_nil hne
    have h₁ := span_append hw₁ (t := (c :: path') ++ (w₂ ++ ('\x7d' :: '\x7d' :: rest)))
      (by simpa using not_isSpace_of_isPathChar (hpath c (.head _)))
    have h₂ := span_append hpath (t := w₂ ++ ('\x7d' :: '\x7d' :: rest)) (by
      intro a ha
      cases w₂ with
      | nil =>
        obtain rfl : '\x7d' = a := by simpa using ha
        decide
      | cons b w₂ =>
        obtain rfl : b = a := by simpa using ha
        by_contra hb
        have hb' := not_isSpace_of_isPathChar (by simpa using hb)
        rw [hw₂ b (.head _)] at hb'
        cases hb')
    have h₃ := span_append hw₂ (t := '\x7d' :: '\x7d' :: rest) (by
      rintro a ha
      obtain rfl : '\x7d' = a := by simpa using ha
      decide)
    simp only [matchTpl, List.cons_append, List.append_assoc, List.nil_append] at h₁ h₂ h₃ ⊢
    rw [h₁.2, h₂.1, h₂.2, h₃.2]
    rfl

/-- Inside a template there is no opening brace. -/
theorem IsTemplate.ne_brace {w₁ w₂ : List Char} (hw₁ : ∀ c ∈ w₁, Lib.isSpace c = true)
    (hw₂ : ∀ c ∈ w₂, Lib.isSpace c = true) (hpath : ∀ c ∈ path, isPathChar c = true) :
    '\x7b' ∉ w₁ ++ (path ++ (w₂ ++ ['\x7d', '\x7d'])) := by
  intro h
  simp only [List.mem_append] at h
  rcases h with h | h | h | h
  · exact absurd (hw₁ _ h) (by decide)
  · exact absurd (hpath _ h) (by decide)
  · exact absurd (hw₂ _ h) (by decide)
  · exact absurd h (by decide)

/-- No template starts inside a template. -/
theorem IsTemplate.apart {x y z z' src' path' : List Char} (h : IsTemplate (x ++ y) path)
    (hx : x ≠ []) (hy : y ≠ []) (h' : IsTemplate src' path') : y ++ z ≠ src' ++ z' := by
  intro heq
  obtain ⟨w₁, w₂, hsrc, hw₁, hw₂, hne, hpath⟩ := h
  obtain ⟨_, _, rfl, -⟩ := h'
  have hno := IsTemplate.ne_brace hw₁ hw₂ hpath
  obtain ⟨c, y, rfl⟩ := List.exists_cons_of_ne_nil hy
  obtain ⟨rfl, htail⟩ := List.cons.inj heq
  obtain ⟨a, x, rfl⟩ := List.exists_cons_of_ne_nil hx
  obtain ⟨-, hsrc⟩ := List.cons.inj hsrc
  cases x with
  | nil =>
    -- the rest of the template behind its first brace: its second letter is no brace
    obtain ⟨-, rfl⟩ := List.cons.inj (hsrc : _ :: y = _)
    cases hin : w₁ ++ (path ++ (w₂ ++ ['\x7d', '\x7d'])) with
    | nil => simp at hin
    | cons d inner =>
      rw [hin] at htail hno
      have hd : d = '\x7b' := (List.cons.inj htail).1
      exact hno (hd ▸ .head _)
  | cons b x =>
    obtain ⟨-, hsrc⟩ := List.cons.inj hsrc
    exact hno (hsrc ▸ List.mem_append_right _ (.head _))

/-- `_TPL` -/
def template : Matcher IsTemplate where
  run := matchTpl
  run_iff := matchTpl_iff
  ne_nil := by
    rintro _ _ ⟨_, _, rfl, -⟩
    exact List.cons_ne_nil _ _
  apart := IsTemplate.apart

end

/-! ## Rendering -/

/-- `_TPL.fullmatch(s)`, as the path. -/
def fullmatch (s : List Char) : Option (List Char) :=
  match matchTpl s with
  | some (path, []) => some path
  | _ => none

section
variable {ν : Type} (nt : NumText ν) (ctx : Value ν)

/-- The text that is put in for a template. -/
def expand (path : List Char) : List Char := fmt nt (lookup path ctx)

mutual

def render : Value ν → Value ν
  | .str s =>
    match fullmatch (Lib.strip s.toList) with
    | some path => lookup path ctx
    | none => .str (String.ofList (template.sub (expand nt ctx) s.toList))
  | .obj fields => .obj (renderFields fields)
  | .arr items => .arr (renderItems items)
  | .null => .null
  | .bool b => .bool b
  | .num n => .num n

def renderItems : List (Value ν) → List (Value ν)
  | [] => []
  | v :: items => render v :: renderItems items

def renderFields : List (String × Value ν) → List (String × Value ν)
  | [] => []
  | (k, v) :: fields => (k, render v) :: renderFields fields

end

mutual

/-- What is to become of a value: lists and dictionaries keep their items and keys, and other values
than strings stay. A string that is one template, up to the spaces around it, becomes the value that
the template names; in any other string the templates among its parts are replaced by texts. -/
inductive Rendered : Value ν → Value ν → Prop
  | null : Rendered .null .null
  | bool (b : Bool) : Rendered (.bool b) (.bool b)
  | num (n : ν) : Rendered (.num n) (.num n)
  | whole {s : String} {path : List Char} (h : IsTemplate (Lib.strip s.toList) path) :
    Rendered (.str s) (lookup path ctx)
  | text {s : String} {parts : List (Part Char (List Char))}
    (hno : ∀ path, ¬ IsTemplate (Lib.strip s.toList) path)
    (h : Matcher.Parts IsTemplate s.toList parts) :
    Rendered (.str s) (.str (String.ofList (parts.flatMap (Part.replace (expand nt ctx)))))
  | arr {items items' : List (Value ν)} (h : RenderedItems items items') :
    Rendered (.arr items) (.arr items')
  | obj {fields fields' : List (String × Value ν)} (h : RenderedFields fields fields') :
    Rendered (.obj fields) (.obj fields')

inductive RenderedItems : List (Value ν) → List (Value ν) → Prop
  | nil : RenderedItems [] []
  | cons {v v' : Value ν} {items items' : List (Value ν)} (h : Rendered v v')
    (hs : RenderedItems items items') : RenderedItems (v :: items) (v' :: items')

inductive RenderedFields : List (String × Value ν) → List (String × Value ν) → Prop
  | nil : RenderedFields [] []
  | cons {k : String} {v v' : Value ν} {fields fields' : List (String × Value ν)}
    (h : Rendered v v') (hs : RenderedFields fields fields') :
    RenderedFields ((k, v) :: fields) ((k, v') :: fields')

end

/-- A template with the path occurs in a string of the value. -/
inductive Mentions (path : List Char) : Value ν → Prop
  | str {s : String} {pre src post : List Char} (hs : s.toList = pre ++ src ++ post)
    (h : IsTemplate src path) : Mentions path (.str s)
  | item {items : List (Value ν)} {v : Value ν} (hv : v ∈ items) (h : Mentions path v) :
    Mentions path (.arr items)
  | field {fields : List (String × Value ν)} {k : String} {v : Value ν} (hv : (k, v) ∈ fields)
    (h : Mentions path v) : Mentions path (.obj fields)

end

/-! ## Strings -/

theorem fullmatch_eq_some {s path : List Char} :
    fullmatch s = some path ↔ IsTemplate s path := by
  constructor
  · intro h
    unfold fullmatch at h
    split at h
    · next heq =>
      cases h
      obtain ⟨src, hsrc, rfl⟩ := matchTpl_iff.1 heq
      rwa [List.append_nil]
    · cases h
  · intro h
    rw [fullmatch, matchTpl_iff.2 ⟨s, h, (List.append_nil s).symm⟩]

theorem fullmatch_eq_none {s : List Char} :
    fullmatch s = none ↔ ∀ path, ¬ IsTemplate s path := by
  rw [Option.eq_none_iff_forall_ne_some]
  exact forall_congr' fun path => not_congr fullmatch_eq_some

/-- A string is what is left of it between the spaces. -/
theorem exists_strip (s : List Char) : ∃ pre post, s = pre ++ Lib.strip s ++ post := by
  refine ⟨s.takeWhile Lib.isSpace,
    ((s.dropWhile Lib.isSpace).reverse.takeWhile Lib.isSpace).reverse, ?_⟩
  rw [List.append_assoc, Lib.strip, stripBy, ← List.reverse_append, List.takeWhile_append_dropWhile,
    List.reverse_reverse, List.takeWhile_append_dropWhile]

section
variable {ν : Type} {nt : NumText ν} {ctx c₁ c₂ : Value ν}

theorem render_whole {s : String} {path : List Char} (h : IsTemplate (Lib.strip s.toList) path) :
    render nt ctx (.str s) = lookup path ctx := by
  rw [render, fullmatch_eq_some.2 h]

theorem render_text {s : String} (h : ∀ path, ¬ IsTemplate (Lib.strip s.toList) path) :
    render nt ctx (.str s) =
      .str (String.ofList (template.sub (expand nt ctx) s.toList)) := by
  rw [render, fullmatch_eq_none.2 h]

/-- A string that is one template mentions its path. -/
theorem Mentions.of_whole {s : String} {path : List Char}
    (h : IsTemplate (Lib.strip s.toList) path) : Mentions path (.str s : Value ν) := by
  obtain ⟨pre, post, hs⟩ := exists_strip s.toList
  exact .str hs h

/-- A string is rendered by the paths it mentions. -/
theorem render_str_congr {s : String}
    (h : ∀ path, Mentions path (.str s : Value ν) → lookup path c₁ = lookup path c₂) :
    render nt c₁ (.str s) = render nt c₂ (.str s) := by
  cases hm : fullmatch (Lib.strip s.toList) with
  | some path =>
    have hpath := fullmatch_eq_some.1 hm
    rw [render_whole hpath, render_whole hpath, h path (.of_whole hpath)]
  | none =>
    have hno := fullmatch_eq_none.1 hm
    rw [render_text hno, render_text hno]
    refine congrArg (fun l => Value.str (String.ofList l)) (Matcher.sub_congr ?_)
    intro pre src path post hs hsrc
    rw [expand, expand, h path (.str hs hsrc)]

/-- A string without templates stays. -/
theorem render_str_eq_self {s : String} (h : ∀ path, ¬ Mentions path (.str s : Value ν)) :
    render nt ctx (.str s) = .str s := by
  rw [render_text fun path hpath => h path (.of_whole hpath), Matcher.sub_eq_self,
    String.ofList_toList]
  exact fun pre src path post hs hsrc => h path (.str hs hsrc)

theorem rendered_str_iff {s : String} {v' : Value ν} :
    Rendered nt ctx (.str s) v' ↔ v' = render nt ctx (.str s) := by
  constructor
  · intro h
    cases h with
    | whole h => rw [render_whole h]
    | text hno h => rw [render_text hno, Matcher.sub_eq, template.parts_iff.1 h]
  · rintro rfl
    cases hm : fullmatch (Lib.strip s.toList) with
    | some path =>
      have hpath := fullmatch_eq_some.1 hm
      rw [render_whole hpath]
      exact .whole hpath
    | none =>
      have hno := fullmatch_eq_none.1 hm
      rw [render_text hno, Matcher.sub_eq]
      exact .text hno (template.parts_spec _)

/-! ## Values -/

mutual

/-- What becomes of a value is what is to become of it, and nothing else is. -/
theorem rendered_iff : ∀ {v v' : Value ν}, Rendered nt ctx v v' ↔ v' = render nt ctx v
  | .null, v' => by
    rw [render]
    exact ⟨fun h => by cases h; rfl, by rintro rfl; exact .null⟩
  | .bool b, v' => by
    rw [render]
    exact ⟨fun h => by cases h; rfl, by rintro rfl; exact .bool b⟩
  | .num n, v' => by
    rw [render]
    exact ⟨fun h => by cases h; rfl, by rintro rfl; exact .num n⟩
  | .str s, v' => rendered_str_iff
  | .arr items, v' => by
    rw [render]
    constructor
    · rintro ⟨⟩
      next h => rw [renderedItems_iff.1 h]
    · rintro rfl
      exact .arr (renderedItems_iff.2 rfl)
  | .obj fields, v' => by
    rw [render]
    constructor
    · rintro ⟨⟩
      next h => rw [renderedFields_iff.1 h]
    · rintro rfl
      exact .obj (renderedFields_iff.2 rfl)

theorem renderedItems_iff : ∀ {items items' : List (Value ν)},
    RenderedItems nt ctx items items' ↔ items' = renderItems nt ctx items
  | [], items' => by
    rw [renderItems]
    exact ⟨fun h => by cases h; rfl, by rintro rfl; exact .nil⟩
  | v :: items, items' => by
    rw [renderItems]
    constructor
    · rintro ⟨⟩
      next h hs => rw [rendered_iff.1 h, renderedItems_iff.1 hs]
    · rintro rfl
      exact .cons (rendered_iff.2 rfl) (renderedItems_iff.2 rfl)

theorem renderedFields_iff : ∀ {fields fields' : List (String × Value ν)},
    RenderedFields nt ctx fields fields' ↔ fields' = renderFields nt ctx fields
  | [], fields' => by
    rw [renderFields]
    exact ⟨fun h => by cases h; rfl, by rintro rfl; exact .nil⟩
  | (k, v) :: fields, fields' => by
    rw [renderFields]
    constructor
    · rintro ⟨⟩
      next h hs => rw [rendered_iff.1 h, renderedFields_iff.1 hs]
    · rintro rfl
      exact .cons (rendered_iff.2 rfl) (renderedFields_iff.2 rfl)

end

mutual

theorem render_congr : ∀ {v : Value ν},
    (∀ path, Mentions path v → lookup path c₁ = lookup path c₂) →
      render nt c₁ v = render nt c₂ v
  | .null, _ | .bool _, _ | .num _, _ => by simp only [render]
  | .str s, h => render_str_congr h
  | .arr items, h => by
    rw [render, render, renderItems_congr fun v hv path hp => h path (.item hv hp)]
  | .obj fields, h => by
    rw [render, render, renderFields_congr fun f hf path hp => h path (.field hf hp)]

theorem renderItems_congr : ∀ {items : List (Value ν)},
    (∀ v ∈ items, ∀ path, Mentions path v → lookup path c₁ = lookup path c₂) →
      renderItems nt c₁ items = renderItems nt c₂ items
  | [], _ => by rw [renderItems, renderItems]
  | v :: items, h => by
    rw [renderItems, renderItems, render_congr (h v (.head _)),
      renderItems_congr fun w hw => h w (.tail _ hw)]

theorem renderFields_congr : ∀ {fields : List (String × Value ν)},
    (∀ f ∈ fields, ∀ path, Mentions path f.2 → lookup path c₁ = lookup path c₂) →
      renderFields nt c₁ fields = renderFields nt c₂ fields
  | [], _ => by rw [renderFields, renderFields]
  | (k, v) :: fields, h => by
    rw [renderFields, renderFields, render_congr (h (k, v) (.head _)),
      renderFields_congr fun f hf => h f (.tail _ hf)]

end

mutual

theorem render_eq_self : ∀ {v : Value ν}, (∀ path, ¬ Mentions path v) → render nt ctx v = v
  | .null, _ | .bool _, _ | .num _, _ => by rw [render]
  | .str s, h => render_str_eq_self h
  | .arr items, h => by
    rw [render, renderItems_eq_self fun v hv path hp => h path (.item hv hp)]
  | .obj fields, h => by
    rw [render, renderFields_eq_self fun f hf path hp => h path (.field hf hp)]

theorem renderItems_eq_self : ∀ {items : List (Value ν)},
    (∀ v ∈ items, ∀ path, ¬ Mentions path v) → renderItems nt ctx items = items
  | [], _ => by rw [renderItems]
  | v :: items, h => by
    rw [renderItems, render_eq_self (h v (.head _)),
      renderItems_eq_self fun w hw => h w (.tail _ hw)]

theorem renderFields_eq_self : ∀ {fields : List (String × Value ν)},
    (∀ f ∈ fields, ∀ path, ¬ Mentions path f.2) → renderFields nt ctx fields = fields
  | [], _ => by rw [renderFields]
  | (k, v) :: fields, h => by
    rw [renderFields, render_eq_self (h (k, v) (.head _)),
      renderFields_eq_self fun f hf => h f (.tail _ hf)]

end

end

/-- Rendering is one pass: a value becomes what is to become of it by the parts of its own strings,
stays as it is when it has no template, and depends on the variables at the paths that it mentions
alone. -/
theorem render_single_pass {ν : Type} (nt : NumText ν) (v c₁ c₂ : Value ν) :
    (∀ v', Rendered nt c₁ v v' ↔ v' = render nt c₁ v) ∧
      ((∀ path, ¬ Mentions path v) → render nt c₁ v = v) ∧
      ((∀ path, Mentions path v → lookup path c₁ = lookup path c₂) →
        render nt c₁ v = render nt c₂ v) :=
  ⟨fun _ => rendered_iff, render_eq_self, render_congr⟩

end AeroXProtect.Flow
