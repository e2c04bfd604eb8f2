import Tabular.Proofs.Acceptance
import Tabular.Proofs.Rereading

namespace Tabular

open Lexer Operator Parse Wording

def words : List String := ["true", "false", "missing", "begin"]

def Reaches (q limit : Nat) : Prop := q ≤ limit ∧ (10 ≤ q → q ≤ 60 → q < limit)

instance (q limit : Nat) : Decidable (Reaches q limit) := inferInstanceAs (Decidable (_ ∧ _))

lemma reaches_atomLevel {q : Nat} (hq : q ≤ 70) : Reaches q atomLevel := by
  rw [Reaches, atomLevel]
  omega

/-- What an expression is read as in every place where it can be written: as an argument, as an operand that
binds at least as strongly as `q`, as the target of what follows it, with its sign apart, and as the body of
a function. -/
structure Rereads (e : Expr) : Prop where
  argument : ∀ b space, Reads b (.argument e.reread) (e.lexemesAt 0 space)
  operand : ∀ {q min}, 0 < q → q ≤ 70 → (min ≤ q ∨ q = 60 ∧ min = 70) → ∀ b space, ∃ limit, Reaches q limit ∧
    Reads b (.joined min limit e.reread) (e.lexemesAt q space)
  target : ∀ {q}, 70 < q → q ≤ atomLevel → e.minusLed = false → ∀ b space,
    Reads b (.postfixed atomLevel e.reread) (e.lexemesAt q space)
  signed : e.minusLed = true → e.reread = unaryExpr "-" e.reread.unsigned ∧ ∀ q, q ≤ atomLevel → ∀ b space, ∃ ts,
    e.lexemesAt q space = (Token.op "-").spaced space :: ts ∧ Reads b (.postfixed atomLevel e.reread.unsigned) ts
  body : e.spills = false → ∀ b space, ∃ limit, Reads b (.joined 1 limit e.reread) (e.lexemesAt 0 space)
  spilt : e.spills = true → ∃ sink value, e.reread = .assign sink value ∧ ∀ b space, ∃ ts us limit, 0 < limit ∧
    e.lexemesAt 0 space = ts ++ (Token.op "=").spaced true :: us ∧ Reads b (.joined 1 limit sink) ts ∧
    Reads b (.argument value) us

lemma reads_parenthesized {e : Expr} {ts : List Lexeme} (h : Reads true (.argument e) ts) (b space : Bool) :
    Reads b (.postfixed atomLevel e) (bracketed .openParen .closeParen ts space) :=
  have ht : Reads b (.primary atomLevel (parenthesizedExpr [e] false)) _ := .tuple rfl (.listedLast h) rfl
  .bare ht

lemma reads_signed {e : Expr} {ts : List Lexeme} {b : Bool} {limit : Nat} (space : Bool)
    (h : Reads b (.joined operandLevel limit e) ts) :
    Reads b (.operand (Nat.min operandLevel limit) (unaryExpr "-" e)) ((Token.op "-").spaced space :: ts) :=
  .signed rfl rfl h

lemma Parse.Reads.joined_mono {b : Bool} {min min' limit : Nat} {e : Expr} {ts : List Lexeme}
    (h : Reads b (.joined min limit e) ts) (hmin : min' ≤ min) : Reads b (.joined min' limit e) ts := by
  generalize hp : Phrase.joined min limit e = p at h
  induction h generalizing min limit e with
  | single h => cases hp; exact .single h
  | infixed _ hop hle hlt hr he ih =>
    cases hp
    exact .infixed (ih hmin rfl) hop (Nat.le_trans hmin hle) hlt hr he
  | _ => cases hp

lemma infixAt?_spaced {op : String} {binding : Binding} (h : infixBinding? op = some binding) (b space : Bool) :
    infixAt? b ((Token.op op).spaced space) = some (op, binding) := by
  simp [infixAt?, Token.spaced, h]

lemma infix_of_binding? {op : String} {binding : Binding} (h : binding? op = some binding) :
    infixBinding? op = some binding ∧ ∀ l r, infixExpr op l r = .ok (.apply op [l, r]) := by
  have h₁ : op ≠ "->" := by
    rintro rfl
    cases h
  have h₂ : op ≠ "=>" := by
    rintro rfl
    cases h
  exact ⟨by simpa [infixBinding?] using h, fun l r => by simp [infixExpr, h₁, h₂]⟩

lemma binding_of_binding? {op : String} {binding : Binding} (h : binding? op = some binding) :
    (binding.rightAssoc = false ∧ 10 ≤ binding.level ∧ binding.level ≤ 50) ∨ binding = ⟨70, true⟩ := by
  have hm := mem_of_baseBinding? h
  fin_cases hm <;> simp

namespace Rereads

variable {reserved : List String} {e : Expr}

lemma headNot (h : Legible reserved e) (hf : e.isFlagged = false) (space : Bool) :
    HeadNot isMarker (e.lexemesAt 0 space) := by
  obtain ⟨l, ts, hl, hm, -⟩ : PlainHead reserved (e.lexemesAt 0 space) := h.plainHead (.inr hf)
  rw [hl]
  rintro _ ⟨⟩
  exact hm

lemma of_target (h : Legible reserved e) (hf : e.isFlagged = false) (hl : e.level = atomLevel)
    (hm : e.minusLed = false) (hs : e.spills = false)
    (hr : ∀ b space, Reads b (.postfixed atomLevel e.reread) (e.lexemesAt 0 space)) : Rereads e where
  argument b space := .plain (.single (.unsigned (hr b space))) (headNot h hf space)
  operand hq hq' _ b space := by
    refine ⟨atomLevel, reaches_atomLevel hq', ?_⟩
    rw [Expr.lexemesAt_of_le (by rw [hl, atomLevel]; omega)]
    exact .single (.unsigned (hr b space))
  target _ hq _ b space := by
    rw [Expr.lexemesAt_of_le (by rw [hl]; exact hq)]
    exact hr b space
  signed hm' := by simp [hm] at hm'
  body _ b space := ⟨_, .single (.unsigned (hr b space))⟩
  spilt hs' := by simp [hs] at hs'

lemma of_signed (h : Legible reserved e) (hf : e.isFlagged = false) (hl : e.level = atomLevel)
    (hm : e.minusLed = true) (hs : e.spills = false) (hu : e.reread = unaryExpr "-" e.reread.unsigned)
    (hr : ∀ b space, ∃ ts, e.lexemesAt 0 space = (Token.op "-").spaced space :: ts ∧
      Reads b (.postfixed atomLevel e.reread.unsigned) ts) : Rereads e := by
  have hoperand (b space : Bool) : Reads b (.operand 70 e.reread) (e.lexemesAt 0 space) := by
    obtain ⟨ts, hts, ht⟩ := hr b space
    rw [hts, hu]
    exact reads_signed space (.single (.unsigned ht))
  refine ⟨fun b space => ?_, fun {q min} hq hq' _ b space => ?_, fun _ _ hm' => ?_, fun _ => ?_,
    fun _ b space => ?_, fun hs' => ?_⟩
  · exact .plain (.single (hoperand b space)) (headNot h hf space)
  · refine ⟨70, ⟨hq', fun _ _ => by omega⟩, ?_⟩
    rw [Expr.lexemesAt_of_le (by rw [hl, atomLevel]; omega)]
    exact .single (hoperand b space)
  · simp [hm] at hm'
  · refine ⟨hu, fun q hq b space => ?_⟩
    rw [Expr.lexemesAt_of_le (by rw [hl]; exact hq)]
    exact hr b space
  · exact ⟨70, .single (hoperand b space)⟩
  · simp [hs] at hs'

lemma operand_of_lt {q : Nat} (hl : e.level < q) (hq : q ≤ 70)
    (ha : ∀ b space, Reads b (.argument e.reread) (e.lexemesAt 0 space)) (min : Nat) (b space : Bool) :
    ∃ limit, Reaches q limit ∧ Reads b (.joined min limit e.reread) (e.lexemesAt q space) := by
  refine ⟨atomLevel, reaches_atomLevel hq, ?_⟩
  rw [Expr.lexemesAt_of_lt hl (by rw [atomLevel]; omega)]
  exact .single (.unsigned (reads_parenthesized (ha true false) b space))

lemma target_of_lt {q : Nat} (hl : e.level < q) (hq : q ≤ atomLevel)
    (ha : ∀ b space, Reads b (.argument e.reread) (e.lexemesAt 0 space)) (b space : Bool) :
    Reads b (.postfixed atomLevel e.reread) (e.lexemesAt q space) := by
  rw [Expr.lexemesAt_of_lt hl hq]
  exact reads_parenthesized (ha true false) b space

lemma of_joined (h : Legible reserved e) (hf : e.isFlagged = false) (hpos : 0 < e.level) (hl : e.level ≤ 70)
    (hm : e.minusLed = false) (hs : e.spills = false) (grip : Nat) (hg : e.level ≤ grip)
    (hg' : 60 ≤ e.level → 70 ≤ grip)
    (hr : ∀ b space min, min ≤ grip → ∃ limit, Reaches e.level limit ∧
      Reads b (.joined min limit e.reread) (e.lexemesAt 0 space)) : Rereads e := by
  have harg (b space : Bool) : Reads b (.argument e.reread) (e.lexemesAt 0 space) := by
    obtain ⟨limit, -, hj⟩ := hr b space 0 (Nat.zero_le _)
    exact .plain hj (headNot h hf space)
  refine ⟨harg, fun {q min} hq hq' hmin b space => ?_, fun {q} hq hq' _ => ?_, fun hm' => ?_, fun _ b space => ?_,
    fun hs' => ?_⟩
  · by_cases hlt : e.level < q
    · exact operand_of_lt hlt hq' harg min b space
    · obtain ⟨limit, ⟨hle, hlt'⟩, hj⟩ := hr b space min (by omega)
      rw [Expr.lexemesAt_of_le (by omega)]
      refine ⟨limit, ⟨by omega, fun h₁ h₂ => ?_⟩, hj⟩
      by_cases h₃ : e.level ≤ 60
      · have := hlt' (by omega) h₃
        omega
      · omega
  · exact target_of_lt (by omega) hq' harg
  · simp [hm] at hm'
  · obtain ⟨limit, -, hj⟩ := hr b space 1 (by omega)
    exact ⟨limit, hj⟩
  · simp [hs] at hs'

lemma of_loose (hl : e.level = 0) (hm : e.minusLed = false)
    (ha : ∀ b space, Reads b (.argument e.reread) (e.lexemesAt 0 space))
    (hb : e.spills = false → ∀ b space, ∃ limit, Reads b (.joined 1 limit e.reread) (e.lexemesAt 0 space))
    (hs : e.spills = true → ∃ sink value, e.reread = .assign sink value ∧ ∀ b space, ∃ ts us limit, 0 < limit ∧
      e.lexemesAt 0 space = ts ++ (Token.op "=").spaced true :: us ∧ Reads b (.joined 1 limit sink) ts ∧
      Reads b (.argument value) us) : Rereads e where
  argument := ha
  operand hq hq' _ b space := operand_of_lt (by omega) hq' ha _ b space
  target hq hq' _ := target_of_lt (by omega) hq' ha
  signed hm' := by simp [hm] at hm'
  body := hb
  spilt := hs

lemma exists_atom (hw : words ⊆ reserved) (h : Legible reserved e) (hb : e.isBare = true)
    (hm : e.minusLed = false) :
    e.reread = e ∧ ∃ t, e.lexemesAt 0 = t.alone ∧ atom? t = some e ∧ t ≠ .openParen := by
  cases h with
  | @int n _ =>
    refine ⟨rfl, .int n, ?_, rfl, by simp⟩
    have hn : ¬ n < 0 := by simpa [Expr.minusLed] using hm
    funext space
    simp [Expr.lexemesAt, Value.lexemes, hn, Token.alone]
  | str s => exact ⟨rfl, .str s, rfl, rfl, by simp⟩
  | bool b => cases b <;> exact ⟨rfl, _, rfl, rfl, by simp⟩
  | missing => exact ⟨rfl, _, rfl, rfl, by simp⟩
  | @ident x hx hr =>
    have hne (y : String) (hy : y ∈ words) : x ≠ y := by
      rintro rfl
      exact hr (hw hy)
    refine ⟨rfl, .ident x, rfl, ?_, by simp⟩
    have h₁ := hne "true" (by decide)
    have h₂ := hne "false" (by decide)
    have h₃ := hne "missing" (by decide)
    have h₄ := hne "begin" (by decide)
    simp [atom?, wordExpr]
  | _ => cases hb

lemma ofAtom (hw : words ⊆ reserved) (h : Legible reserved e) (hb : e.isBare = true)
    (hm : e.minusLed = false) : Rereads e := by
  obtain ⟨he, t, ht, ha, -⟩ := exists_atom hw h hb hm
  refine of_target h ?_ ?_ hm ?_ fun b space => ?_
  · cases e <;> first | rfl | cases hb
  · cases e <;> first | rfl | cases hb
  · cases e <;> first | rfl | cases hb
  · rw [he, ht]
    exact .bare (.atom ha)

lemma ofNegative {n : Int64} (h : Legible reserved (.literal (.int n))) (hn : n < 0) :
    Rereads (.literal (.int n)) := by
  refine of_signed h rfl rfl (by simpa [Expr.minusLed] using hn) rfl ?_ fun b space => ?_
  · simp [Expr.reread, Expr.unsigned, unaryExpr]
  · refine ⟨[(Token.int (-n)).spaced false], ?_, .bare (.atom rfl)⟩
    simp [Expr.lexemesAt, Value.lexemes, hn]

lemma interp (hw : words ⊆ reserved) (h : Legible reserved e) (ih : Rereads e)
    (hm : e.isBare = true → e.minusLed = false) (hs : e.spills = false) : Rereads (.interp e) := by
  refine of_target (.interp h) rfl rfl rfl rfl fun b space => ?_
  rw [Expr.reread, Expr.lexemesAt]
  split
  next hb =>
    obtain ⟨he, t, ht, ha, hne⟩ := exists_atom hw h hb (hm hb)
    rw [he, ht]
    refine .bare (.hole rfl (.atom ha) ?_)
    rintro _ ⟨⟩
    exact hne
  next =>
    obtain ⟨limit, hj⟩ := ih.body hs true false
    exact .bare (.wideHole rfl rfl (hj.joined_mono (Nat.zero_le 1)) rfl)

section Operators

variable {op : String} {binding : Binding} {l r : Expr}

lemma reads_infixed {b : Bool} {min limit : Nat} {ts : List Lexeme} {left : Expr} (hb : binding? op = some binding)
    (hmin : min ≤ binding.level) (hl : Reads b (.joined min limit left) ts) (hlt : binding.level < limit)
    (ihr : Rereads r) : ∃ limit', Reaches binding.level limit' ∧
      Reads b (.joined min limit' (.apply op [left, r.reread]))
        (ts ++ (Token.op op).spaced true :: r.lexemesAt binding.rightLevel true) := by
  obtain ⟨hop, hexpr⟩ := infix_of_binding? hb
  obtain ⟨hpos, hle, hreach⟩ : 0 < binding.rightLevel ∧ binding.rightLevel ≤ 70 ∧
      Reaches binding.level binding.rightLevel := by
    rcases binding_of_binding? hb with ⟨ha, hlo, hhi⟩ | rfl
    · simp only [Binding.rightLevel, ha, Reaches, Bool.false_eq_true, if_false]
      omega
    · decide
  obtain ⟨limit', ⟨hq, -⟩, hr⟩ := ihr.operand hpos hle (.inl (Nat.le_refl _)) b true
  have hmin' : Nat.min binding.rightLevel limit' = binding.rightLevel := Nat.min_eq_left hq
  refine ⟨binding.rightLevel, hreach, ?_⟩
  have := Reads.infixed hl (infixAt?_spaced hop b true) hmin hlt hr (hexpr _ _)
  rwa [hmin'] at this

lemma infixed (hb : binding? op = some binding) (h : Legible reserved (.apply op [l, r])) (ihl : Rereads l)
    (ihr : Rereads r) : Rereads (.apply op [l, r]) := by
  have hlevel := Expr.level_infixed hb l r
  have hlex (space : Bool) : (Expr.apply op [l, r]).lexemesAt 0 space =
      l.lexemesAt binding.leftLevel space ++ (Token.op op).spaced true :: r.lexemesAt binding.rightLevel true := by
    rw [lexemesAt_infixed hb]
    rfl
  have hbounds : 10 ≤ binding.level ∧ binding.level ≤ 70 ∧ (60 ≤ binding.level → 70 ≤ binding.level) := by
    rcases binding_of_binding? hb with ⟨-, hlo, hhi⟩ | rfl
    · omega
    · decide
  refine of_joined h rfl (by omega) (by omega) rfl rfl binding.level (by omega) (by omega)
    fun b space min hmin => ?_
  rw [hlevel]
  rw [Expr.reread_infixed hb, hlex]
  rcases binding_of_binding? hb with ⟨ha, hlo, hhi⟩ | rfl
  · have hleft : binding.leftLevel = binding.level := by simp [Binding.leftLevel, ha]
    rw [ha, hleft]
    obtain ⟨limit, ⟨-, hlt⟩, hl⟩ := ihl.operand (by omega) (by omega) (.inl hmin) b space
    exact reads_infixed hb hmin hl (hlt hlo (by omega)) ihr
  · rw [if_pos rfl, Expr.behindSign]
    split
    next hm =>
      obtain ⟨-, hsigned⟩ := ihl.signed hm
      obtain ⟨ts, hts, ht⟩ := hsigned (Binding.leftLevel ⟨70, true⟩) (by decide) b space
      obtain ⟨limit, ⟨hle, -⟩, hj⟩ := reads_infixed hb (Nat.le_refl 70) (.single (.unsigned ht)) (by decide) ihr
      have hmin' : Nat.min operandLevel limit = 70 := Nat.min_eq_left hle
      have ho := reads_signed space hj
      rw [hmin'] at ho
      rw [hts]
      exact ⟨70, by decide, .single ho⟩
    next hm =>
      have ht := ihl.target (q := 71) (by decide) (by decide) (by simpa using hm) b space
      exact reads_infixed hb hmin (.single (.unsigned ht)) (by decide) ihr

lemma unary (hop : op = "-" ∨ op = "!") (hn : op = "-" → e.isNumber = false) (h : Legible reserved (.apply op [e]))
    (ih : Rereads e) : Rereads (.apply op [e]) := by
  have hu := isUnary_of_sign hop
  have hlevel : (Expr.apply op [e]).level = 60 := Expr.level_unary hu e
  have hexpr : unaryExpr op e.reread = .apply op [e.reread] :=
    Expr.unaryExpr_eq hop fun ho => by rw [Expr.isNumber_reread, hn ho]
  refine of_joined h rfl (by omega) (by omega) rfl rfl 70 (by omega) (by omega) fun b space min _ => ?_
  obtain ⟨limit, ⟨hle, hlt⟩, hj⟩ := ih.operand (show 0 < 60 by decide) (by decide) (.inr ⟨rfl, rfl⟩) b false
  have hsigned : Reads b (.operand (Nat.min 70 limit) (unaryExpr op e.reread))
      ((Token.op op).spaced space :: e.lexemesAt 60 false) := .signed rfl hu hj
  rw [hexpr] at hsigned
  rw [Expr.reread_unary, lexemesAt_unary hu, hlevel]
  have := hlt (by decide) (by decide)
  have hmin : 60 < Nat.min 70 limit := Nat.lt_min.mpr ⟨by decide, this⟩
  exact ⟨Nat.min 70 limit, ⟨by omega, fun _ _ => hmin⟩, .single hsigned⟩

end Operators

lemma of_compound {t : Expr} {whole : Expr → Expr} {suffix : List Lexeme} (h : Legible reserved e) (ih : Rereads t)
    (hc : ∀ x, (whole x).isCompound = true) (he : e.reread = Expr.behindSign t t.reread whole)
    (hl : e.level = atomLevel) (hec : e.isCompound = true) (hm : e.minusLed = t.minusLed)
    (hlex : ∀ space, e.lexemesAt 0 space = t.lexemesAt atomLevel space ++ suffix)
    (hr : ∀ {b x ts}, Reads b (.postfixed atomLevel x) ts →
      Reads b (.postfixed atomLevel (whole x)) (ts ++ suffix)) :
    Rereads e := by
  have hf : e.isFlagged = false := by cases e <;> first | rfl | cases hec
  have hs : e.spills = false := by cases e <;> first | rfl | cases hec
  rw [Expr.behindSign_eq hc] at he
  cases hmt : t.minusLed with
  | false =>
    refine of_target h hf hl (hm.trans hmt) hs fun b space => ?_
    rw [he, hmt, hlex]
    exact hr (ih.target (by decide) (Nat.le_refl _) hmt b space)
  | true =>
    rw [hmt, if_pos rfl] at he
    have hu : e.reread.unsigned = whole t.reread.unsigned := by rw [he, Expr.apply, Expr.unsigned]
    refine of_signed h hf hl (hm.trans hmt) hs ?_ fun b space => ?_
    · rw [hu, he, Expr.unaryExpr_eq (.inl rfl) fun _ => Expr.isNumber_of_isCompound (hc _)]
    · obtain ⟨ts, hts, ht⟩ := (ih.signed hmt).2 atomLevel (Nat.le_refl _) b space
      rw [hu, hlex, hts]
      exact ⟨ts ++ suffix, rfl, hr ht⟩

lemma field {t : Expr} {x : String} (h : Legible reserved (.field t x)) (ih : Rereads t) :
    Rereads (.field t x) := by
  refine of_compound h ih (fun _ => rfl) rfl rfl rfl rfl (fun space => rfl) fun hr => ?_
  exact .field hr (by decide) rfl rfl rfl

section Lists

variable {es : List Expr} {fs : List Wording}

def Items (fs : List Wording) (es : List Expr) : Prop :=
  List.Forall₂ (fun f e => ∀ b space, Reads b (.argument e) (f space)) fs es

lemma items_map (h : ∀ e ∈ es, Rereads e) : Items (es.map (·.lexemesAt 0)) (es.map Expr.reread) := by
  rw [Items, List.forall₂_map_left_iff, List.forall₂_map_right_iff]
  exact List.forall₂_same.mpr fun e he => (h e he).argument

lemma Items.listed (h : Items fs es) (b space : Bool) :
    ∃ comma, Reads b (.listed es comma) (listing .comma space fs) := by
  induction h generalizing space with
  | nil => exact ⟨true, .listedNil⟩
  | @cons f e fs es hf h ih =>
    cases h with
    | nil => exact ⟨false, .listedLast (hf b space)⟩
    | cons hg h =>
      obtain ⟨comma, hi⟩ := ih true
      exact ⟨comma, .listedCons (hf b space) rfl hi⟩

lemma Items.tuple (h : Items fs es) (b space : Bool) :
    Reads b (.postfixed atomLevel (tupleExpr es)) (Wording.tuple fs space) := by
  have hlen := h.length_eq
  rw [Wording.tuple]
  split
  next hone =>
    obtain ⟨f, rfl⟩ := List.length_eq_one_iff.mp hone
    obtain ⟨e, rfl⟩ := List.length_eq_one_iff.mp (hlen.symm.trans hone)
    cases h with
    | cons hf _ =>
      have ht : Reads b (.primary atomLevel (parenthesizedExpr [e] true))
          (bracketed .openParen .closeParen (f false ++ [Token.comma.spaced false]) space) :=
        .tuple rfl (.listedCons (hf true false) rfl .listedNil) rfl
      exact .bare ht
  next hone =>
    obtain ⟨comma, hi⟩ := h.listed true false
    have hexpr : parenthesizedExpr es comma = tupleExpr es := by
      unfold parenthesizedExpr
      split
      · simp at hlen
        omega
      · rfl
    rw [List.append_nil, ← hexpr]
    exact .bare (.tuple rfl hi rfl)

lemma Items.lines (h : Items fs es) (hend : ∀ f ∈ fs, HeadNot (· = .ident "end") (f true)) :
    Reads false (.lines es) (listing .semicolon true fs ++ [(Token.ident "end").spaced true]) := by
  have hstop : Stops false 0 ((Token.ident "end").spaced true) := by
    refine ⟨rfl, fun op binding hb => ?_, fun _ => nofun⟩
    cases hb
  induction h with
  | nil => exact .noLines rfl
  | @cons f e fs es hf h ih =>
    have hfirst := hend f List.mem_cons_self
    have hrest := ih fun g hg => hend g (List.mem_cons_of_mem f hg)
    cases h with
    | nil => exact .line (hf false true) hfirst hstop rfl hrest
    | cons hg h =>
      simp only [listing, List.append_assoc, List.cons_append]
      exact .line (hf false true) hfirst (stops_of_closes rfl 0) rfl (.skip rfl hrest)

end Lists

lemma vector {es : List Expr} (h : Legible reserved (.vector es)) (ih : ∀ e ∈ es, Rereads e) :
    Rereads (.vector es) := by
  refine of_target h rfl rfl rfl rfl fun b space => ?_
  obtain ⟨comma, hi⟩ := (items_map ih).listed true false
  rw [Expr.reread, Expr.lexemesAt, Expr.rereadItems_eq, Expr.lexemesOf_eq]
  exact .bare (.vector rfl hi rfl)

lemma index {t : Expr} {es : List Expr} (h : Legible reserved (.index t es)) (iht : Rereads t)
    (ih : ∀ e ∈ es, Rereads e) : Rereads (.index t es) := by
  refine of_compound h iht (fun _ => rfl) rfl rfl rfl rfl (fun space => rfl) fun hr => ?_
  obtain ⟨comma, hi⟩ := (items_map ih).listed true false
  rw [Expr.rereadItems_eq, Expr.lexemesOf_eq]
  exact .indexed hr (by decide) rfl rfl hi rfl

lemma block {es : List Expr} (h : Legible reserved (.block es)) (ih : ∀ e ∈ es, Rereads e)
    (hend : ∀ e ∈ es, HeadNot (· = .ident "end") (e.lexemesAt 0 true)) : Rereads (.block es) := by
  refine of_target h rfl rfl rfl rfl fun b space => ?_
  rw [Expr.reread, Expr.lexemesAt, Expr.rereadItems_eq, Expr.lexemesOf_eq]
  refine .bare (.block rfl ((items_map ih).lines ?_))
  simpa using hend

lemma mapM_named?_of_exists {es : List Expr} (h : ∃ e ∈ es, named? e = none) : es.mapM named? = none := by
  induction es with
  | nil => simp at h
  | cons e es ih =>
    rw [List.mapM_cons]
    cases he : named? e with
    | none => rfl
    | some f =>
      have hes : ∃ e ∈ es, named? e = none := by simpa [he] using h
      rw [ih hes]
      rfl

lemma mapM_named?_map (fs : List (String × Expr)) :
    (fs.map fun f => Expr.assign (.ident f.1) f.2).mapM named? = some fs := by
  induction fs with
  | nil => rfl
  | cons f fs ih =>
    rw [List.map_cons, List.mapM_cons, ih]
    rfl

lemma tuple {es : List Expr} (h : Legible reserved (.tuple es)) (ih : ∀ e ∈ es, Rereads e)
    (hn : es = [] ∨ ∃ e ∈ es, named? e = none) : Rereads (.tuple es) := by
  refine of_target h rfl rfl rfl rfl fun b space => ?_
  have hexpr : tupleExpr (es.map Expr.reread) = .tuple (es.map Expr.reread) := by
    rcases hn with rfl | ⟨e, he, hn⟩
    · rfl
    · have hnone : (es.map Expr.reread).mapM named? = none :=
        mapM_named?_of_exists ⟨e.reread, List.mem_map_of_mem he, by rw [Expr.named?_reread, hn]; rfl⟩
      unfold tupleExpr
      rw [hnone]
      split <;> simp_all
  rw [Expr.reread, Expr.lexemesAt, Expr.rereadItems_eq, Expr.lexemesOf_eq, ← hexpr]
  exact (items_map ih).tuple b space

lemma reads_named (hw : words ⊆ reserved) {x : String} (hx : isName x = true)
    (hr : x ∉ reserved) (ih : Rereads e) (b space : Bool) : Reads b (.argument (.assign (.ident x) e.reread))
      (Wording.infixed (Token.ident x).alone "=" (e.lexemesAt 0) space) := by
  have hlegible : Legible reserved (.ident x) := .ident hx hr
  have hident := (ofAtom hw hlegible rfl rfl).target (q := atomLevel) (by decide) (Nat.le_refl _) rfl b space
  exact .assigned (.single (.unsigned hident)) (headNot hlegible rfl space) (by decide) rfl (ih.argument b true)

lemma namedTuple (hw : words ⊆ reserved) {fs : List (String × Expr)}
    (h : Legible reserved (.namedTuple fs)) (hn : ∀ f ∈ fs, isName f.1 = true ∧ f.1 ∉ reserved)
    (ih : ∀ f ∈ fs, Rereads f.2) : Rereads (.namedTuple fs) := by
  refine of_target h rfl rfl rfl rfl fun b space => ?_
  cases fs with
  | nil => exact .bare (.unit rfl rfl rfl)
  | cons f fs =>
    let fields := (f :: fs).map fun f => (f.1, f.2.reread)
    have hitems : Items (Expr.lexemesOfFields (f :: fs)) (fields.map fun f => .assign (.ident f.1) f.2) := by
      rw [Items, Expr.lexemesOfFields_eq, List.forall₂_map_left_iff, List.forall₂_map_right_iff,
        List.forall₂_map_right_iff]
      exact List.forall₂_same.mpr fun f hf => reads_named hw (hn f hf).1 (hn f hf).2 (ih f hf)
    have hexpr : tupleExpr (fields.map fun f => .assign (.ident f.1) f.2) = .namedTuple fields := by
      unfold tupleExpr
      rw [mapM_named?_map]
      rfl
    rw [Expr.reread, Expr.lexemesAt, Expr.rereadFields_eq, ← hexpr]
    · exact hitems.tuple b space
    · simp

lemma reads_arguments {fs : List Wording} {as : List CallArgument}
    (h : List.Forall₂ (fun f a => ∃ e, (∀ b space, Reads b (.argument e) (f space)) ∧
      argumentOf true false e = .ok a) fs as) (b space : Bool) :
    Reads b (.arguments true false (as.foldr Arguments.cons ⟨[], []⟩)) (listing .comma space fs) := by
  induction h generalizing space with
  | nil => exact .argumentsNil
  | @cons f a fs as hf h ih =>
    obtain ⟨e, he, ha⟩ := hf
    cases h with
    | nil => exact .argumentsLast (he b space) ha
    | cons hg h => exact .argumentsCons (he b space) ha rfl (ih true)

lemma foldr_cons (es : List Expr) (ks : List (String × Expr)) :
    (es.map CallArgument.positional ++
      ks.map fun k => CallArgument.keyword k.1 k.2).foldr Arguments.cons ⟨[], []⟩ = ⟨es, ks⟩ := by
  induction es with
  | nil =>
    induction ks with
    | nil => rfl
    | cons k ks ih =>
      rw [List.map_nil, List.nil_append] at ih ⊢
      rw [List.map_cons, List.foldr_cons, ih]
      rfl
  | cons e es ih =>
    rw [List.map_cons, List.cons_append, List.foldr_cons, ih]
    rfl

lemma call (hw : words ⊆ reserved) {f : Expr} {as : Arguments}
    (h : Legible reserved (.call f as.toList)) (hf : Legible reserved f) (ihf : Rereads f)
    (hpos : ∀ e ∈ as.positional, named? e = none) (ihpos : ∀ e ∈ as.positional, Rereads e)
    (hks : ∀ k ∈ as.keywords, isName k.1 = true ∧ k.1 ∉ reserved) (ihks : ∀ k ∈ as.keywords, Rereads k.2) :
    Rereads (.call f as.toList) := by
  have hop := hf.not_operator
  refine of_compound h ihf (fun _ => rfl) (Expr.reread_call hop _) (Expr.level_call hop _) rfl rfl
    (fun space => by rw [lexemesAt_call hop]) fun hr => ?_
  let positional := as.positional.map Expr.reread
  let keywords := as.keywords.map fun k => (k.1, k.2.reread)
  have hread : Reads true (.arguments true false ⟨positional, keywords⟩)
      (listing .comma false (as.toList.map (·.lexemesAt 0))) := by
    rw [← foldr_cons]
    refine reads_arguments ?_ true false
    rw [Arguments.toList, List.map_append]
    refine List.rel_append ?_ ?_
    · rw [List.map_map, List.forall₂_map_left_iff, List.forall₂_map_right_iff]
      refine List.forall₂_same.mpr fun e he => ⟨e.reread, (ihpos e he).argument, ?_⟩
      have hnamed : named? e.reread = none := by
        rw [Expr.named?_reread, hpos e he]
        rfl
      simp [argumentOf, hnamed]
    · rw [List.map_map, List.map_map, List.forall₂_map_left_iff, List.forall₂_map_right_iff]
      exact List.forall₂_same.mpr fun k hk => ⟨_, reads_named hw (hks k hk).1 (hks k hk).2 (ihks k hk), rfl⟩
  have hlist : as.toList.map Expr.reread = Arguments.toList ⟨positional, keywords⟩ := by
    simp [Arguments.toList, positional, keywords, Expr.reread]
  rw [hlist]
  exact .called hr (by decide) rfl rfl hread rfl

lemma sink {s : Expr} (ih : Rereads s) (b space : Bool) :
    ∃ limit, 0 < limit ∧ Reads b (.joined 1 limit s.reread) (s.lexemesAt atomLevel space) := by
  cases hm : s.minusLed with
  | false => exact ⟨atomLevel, by decide, .single (.unsigned (ih.target (by decide) (Nat.le_refl _) hm b space))⟩
  | true =>
    obtain ⟨hu, hsigned⟩ := ih.signed hm
    obtain ⟨ts, hts, ht⟩ := hsigned atomLevel (Nat.le_refl _) b space
    rw [hts, hu]
    exact ⟨70, by decide, .single (reads_signed space (.single (.unsigned ht)))⟩

lemma assign {s v : Expr} (hs : Legible reserved s) (ihs : Rereads s) (ihv : Rereads v) :
    Rereads (.assign s v) := by
  have hn (space : Bool) : HeadNot isMarker (s.lexemesAt atomLevel space) := by
    obtain ⟨l, ts, hl, hm, -⟩ : PlainHead reserved (s.lexemesAt atomLevel space) := hs.plainHead (.inl (by decide))
    rw [hl]
    rintro _ ⟨⟩
    exact hm
  refine of_loose rfl rfl (fun b space => ?_) nofun fun _ => ⟨s.reread, v.reread, rfl, fun b space => ?_⟩
  · obtain ⟨limit, hpos, hj⟩ := sink ihs b space
    exact .assigned (hj.joined_mono (Nat.zero_le 1)) (hn space) hpos rfl (ihv.argument b true)
  · obtain ⟨limit, hpos, hj⟩ := sink ihs b space
    exact ⟨_, _, limit, hpos, rfl, hj, ihv.argument b true⟩

lemma flagged {flags : String} (ih : Rereads e) : Rereads (.flagged flags e) := by
  refine of_loose rfl rfl (fun b space => ?_) (fun _ b space => ?_) nofun
  · exact .flagged rfl (ih.argument b true)
  · exact ⟨0, .single (.unsigned (.bare (.marked rfl (ih.argument b true))))⟩

lemma pair {l r : Expr} (h : Legible reserved (.pair l r)) (ihl : Rereads l) (ihr : Rereads r) :
    Rereads (.pair l r) := by
  have hlevel : (Expr.pair l r).level = 5 := rfl
  refine of_joined h rfl (by omega) (by omega) rfl rfl pairLevel (by rw [hlevel, pairLevel]) (by omega)
    fun b space min hmin => ?_
  obtain ⟨limit, ⟨hle, -⟩, hl⟩ := ihl.operand (show 0 < pairLevel + 1 by decide) (by decide)
    (.inl (Nat.le_succ_of_le hmin)) b space
  obtain ⟨limit', ⟨hle', -⟩, hr⟩ :=
    ihr.operand (show 0 < pairLevel by decide) (by decide) (.inl (Nat.le_refl _)) b true
  have hop : infixBinding? "=>" = some ⟨pairLevel, true⟩ := rfl
  have hj := Reads.infixed hl (infixAt?_spaced hop b true) hmin (Nat.lt_of_succ_le hle) hr rfl
  rw [show Nat.min (Binding.rightLevel ⟨pairLevel, true⟩) limit' = pairLevel from Nat.min_eq_left hle'] at hj
  rw [hlevel]
  exact ⟨pairLevel, by decide, hj⟩

lemma mapM_identName?_map (xs : List String) : (xs.map Expr.ident).mapM identName? = some xs := by
  induction xs with
  | nil => rfl
  | cons x xs ih =>
    rw [List.map_cons, List.mapM_cons, ih]
    rfl

lemma exists_params (hw : words ⊆ reserved) {xs : List String}
    (hxs : ∀ x ∈ xs, isName x = true ∧ x ∉ reserved) : ∃ lhs, lambdaParams lhs = .ok xs ∧
      ∀ b space, Reads b (.postfixed atomLevel lhs) (params xs space) := by
  have hident (x : String) (hx : x ∈ xs) : Rereads (.ident x) := by
    obtain ⟨hn, hr⟩ := hxs x hx
    exact ofAtom hw (.ident hn hr) rfl rfl
  by_cases hone : ∃ x, xs = [x]
  · obtain ⟨x, rfl⟩ := hone
    refine ⟨.ident x, rfl, fun b space => ?_⟩
    exact (hident x List.mem_cons_self).target (q := atomLevel) (by decide) (Nat.le_refl _) rfl b space
  · have hitems : Items (xs.map fun x => (Token.ident x).alone) (xs.map Expr.ident) := by
      rw [Items, List.forall₂_map_left_iff, List.forall₂_map_right_iff]
      exact List.forall₂_same.mpr fun x hx => (hident x hx).argument
    have hlen : xs.length ≠ 1 := fun hl => hone (List.length_eq_one_iff.mp hl)
    have hparams : params xs = bracketed .openParen .closeParen
        (listing .comma false (xs.map fun x => (Token.ident x).alone)) := by
      unfold params
      split
      · exact absurd rfl hlen
      · rfl
    obtain ⟨comma, hi⟩ := hitems.listed true false
    have hexpr : parenthesizedExpr (xs.map Expr.ident) comma = .tuple (xs.map Expr.ident) := by
      rcases xs with _ | ⟨x, _ | ⟨y, xs⟩⟩
      · rfl
      · exact absurd rfl hlen
      · rfl
    refine ⟨.tuple (xs.map Expr.ident), ?_, fun b space => ?_⟩
    · simp only [lambdaParams, mapM_identName?_map]
    · rw [hparams, ← hexpr]
      exact .bare (.tuple rfl hi rfl)

section Lambdas

variable {xs : List String} (hw : words ⊆ reserved) (hxs : ∀ x ∈ xs, isName x = true ∧ x ∉ reserved)
include hw hxs

lemma reads_lambda {b : Bool} {limit : Nat} {body : Expr} {ts : List Lexeme} (space : Bool)
    (hb : Reads b (.joined 1 limit body) ts) : Reads b (.joined 1 (Nat.min 1 limit) (.lambda xs body))
      (params xs space ++ (Token.op "->").spaced true :: ts) := by
  obtain ⟨lhs, hparams, hlhs⟩ := exists_params hw hxs
  have hop : infixBinding? "->" = some ⟨1, true⟩ := rfl
  refine .infixed (.single (.unsigned (hlhs b space))) (infixAt?_spaced hop b true) (Nat.le_refl 1)
    (by decide) hb ?_
  rw [infixExpr, hparams]
  rfl

lemma lambda_of_within (h : Legible reserved (.lambda xs e)) (ih : Rereads e) (hs : e.spills = false) :
    Rereads (.lambda xs e) := by
  have hreread : (Expr.lambda xs e).reread = .lambda xs e.reread := by
    rw [Expr.reread]
    unfold Expr.spill
    split
    next hr =>
      rw [Expr.spills_of_reread hr] at hs
      cases hs
    next => rfl
  have hbody (b space : Bool) : ∃ limit, Reads b (.joined 1 limit (Expr.lambda xs e).reread)
      ((Expr.lambda xs e).lexemesAt 0 space) := by
    obtain ⟨limit, hb⟩ := ih.body hs b true
    rw [hreread]
    exact ⟨_, reads_lambda hw hxs space hb⟩
  refine of_loose rfl rfl (fun b space => ?_) (fun _ => hbody) fun hs' => ?_
  · obtain ⟨limit, hb⟩ := hbody b space
    exact .plain (hb.joined_mono (Nat.zero_le 1)) (headNot h rfl space)
  · rw [Expr.spills, hs] at hs'
    cases hs'

lemma lambda_of_spilt (h : Legible reserved (.lambda xs e)) (ih : Rereads e) (hs : e.spills = true) :
    Rereads (.lambda xs e) := by
  obtain ⟨sink, value, he, hspilt⟩ := ih.spilt hs
  have hreread : (Expr.lambda xs e).reread = .assign (.lambda xs sink) value := by
    rw [Expr.reread, he]
    rfl
  have hread (b space : Bool) : ∃ ts us limit, 0 < limit ∧
      (Expr.lambda xs e).lexemesAt 0 space = ts ++ (Token.op "=").spaced true :: us ∧
      Reads b (.joined 1 limit (.lambda xs sink)) ts ∧ Reads b (.argument value) us := by
    obtain ⟨ts, us, limit, hpos, hts, hj, hv⟩ := hspilt b true
    refine ⟨params xs space ++ (Token.op "->").spaced true :: ts, us, Nat.min 1 limit,
      Nat.lt_min.mpr ⟨by decide, hpos⟩, ?_, reads_lambda hw hxs space hj, hv⟩
    show params xs space ++ (Token.op "->").spaced true :: e.lexemesAt 0 true = _
    rw [hts, List.append_assoc, List.cons_append]
  refine of_loose rfl rfl (fun b space => ?_) (fun hs' => ?_) fun _ => ⟨_, _, hreread, hread⟩
  · obtain ⟨ts, us, limit, hpos, hts, hj, hv⟩ := hread b space
    have hn := headNot h rfl space
    rw [hts] at hn ⊢
    rw [hreread]
    refine .assigned (hj.joined_mono (Nat.zero_le 1)) ?_ hpos rfl hv
    obtain ⟨l, ts, rfl, -⟩ := hj.heads
    exact hn
  · rw [Expr.spills, hs] at hs'
    cases hs'

lemma lambda (h : Legible reserved (.lambda xs e)) (ih : Rereads e) : Rereads (.lambda xs e) := by
  cases hs : e.spills with
  | false => exact lambda_of_within hw hxs h ih hs
  | true => exact lambda_of_spilt hw hxs h ih hs

end Lambdas

end Rereads

/-- Where the reader can follow what is written: an interpolated number has no sign, an interpolated expression
does not assign outside brackets, and no line of a block starts as the block ends. -/
def Expr.Followed : Expr → Prop
  | .interp e => (e.isBare = true → e.minusLed = false) ∧ e.spills = false
  | .block es => ∀ e ∈ es, HeadNot (· = .ident "end") (e.lexemesAt 0 true)
  | _ => True

theorem Legible.rereads {reserved : List String} (hw : words ⊆ reserved) {e : Expr} (h : Legible reserved e)
    (hn : e.All Expr.Followed) : Rereads e := by
  induction h with
  | @int n hn' =>
    have h : Legible reserved (.literal (.int n)) := .int hn'
    -- below zero the literal is two lexemes, and its sign takes part in what stands around it
    by_cases hneg : n < 0
    · exact .ofNegative h hneg
    · exact .ofAtom hw h rfl (by simpa [Expr.minusLed] using hneg)
  | str s => exact .ofAtom hw (.str s) rfl rfl
  | bool b => exact .ofAtom hw (.bool b) rfl rfl
  | missing => exact .ofAtom hw .missing rfl rfl
  | ident hx hr => exact .ofAtom hw (.ident hx hr) rfl rfl
  | @quote x hx =>
    have h : Legible reserved (.quote x) := .quote hx
    exact .of_target h rfl rfl rfl rfl fun b space => .bare (.atom rfl)
  | interp h ih =>
    obtain ⟨⟨hbare, hspills⟩, he⟩ := Expr.all_interp.mp hn
    exact .interp hw h (ih he) hbare hspills
  | infixed hb hl hr ihl ihr =>
    obtain ⟨-, -, hes⟩ := Expr.all_call.mp hn
    simp only [List.forall_mem_cons] at hes
    exact .infixed hb (.infixed hb hl hr) (ihl hes.1) (ihr hes.2.1)
  | unary hop hnum he ih =>
    obtain ⟨-, -, hes⟩ := Expr.all_call.mp hn
    exact .unary hop hnum (.unary hop hnum he) (ih (hes _ List.mem_cons_self))
  | call hf hes hpos hks hvs ihf ihes ihvs =>
    obtain ⟨-, hnf, hnes⟩ := Expr.all_call.mp hn
    obtain ⟨hnpos, hnks⟩ := Parse.Arguments.forall_toList.mp hnes
    refine .call hw (.call hf hes hpos hks hvs) hf (ihf hnf) hpos (fun e he => ihes e he (hnpos e he)) hks
      fun k hk => ?_
    exact ihvs k hk (Expr.all_keyword.mp (hnks k hk)).2
  | index ht hes iht ihes =>
    obtain ⟨-, hnt, hnes⟩ := Expr.all_index.mp hn
    exact .index (.index ht hes) (iht hnt) fun e he => ihes e he (hnes e he)
  | field ht hx iht => exact .field (.field ht hx) (iht (Expr.all_field.mp hn).2)
  | assign hs hv ihs ihv =>
    obtain ⟨-, hns, hnv⟩ := Expr.all_assign.mp hn
    exact .assign hs (ihs hns) (ihv hnv)
  | flagged _ _ ih => exact .flagged (ih (Expr.all_flagged.mp hn).2)
  | block hes ihes =>
    obtain ⟨hends, hnes⟩ := Expr.all_block.mp hn
    exact .block (.block hes) (fun e he => ihes e he (hnes e he)) hends
  | tuple hes hnamed ihes =>
    obtain ⟨-, hnes⟩ := Expr.all_tuple.mp hn
    exact .tuple (.tuple hes hnamed) (fun e he => ihes e he (hnes e he)) hnamed
  | namedTuple hnames hfs ih =>
    obtain ⟨-, hnfs⟩ := Expr.all_namedTuple.mp hn
    exact .namedTuple hw (.namedTuple hnames hfs) hnames fun f hf => ih f hf (hnfs f hf)
  | vector hes ihes =>
    obtain ⟨-, hnes⟩ := Expr.all_vector.mp hn
    exact .vector (.vector hes) fun e he => ihes e he (hnes e he)
  | lambda hxs he ih => exact .lambda hw hxs (.lambda hxs he) (ih (Expr.all_lambda.mp hn).2)
  | pair hl hr ihl ihr =>
    obtain ⟨-, hnl, hnr⟩ := Expr.all_pair.mp hn
    exact .pair (.pair hl hr) (ihl hnl) (ihr hnr)

theorem Legible.parseExpr_written {reserved : List String} (hw : words ⊆ reserved) {e : Expr}
    (h : Legible reserved e) (hn : e.All Expr.Followed) : parseExpr e.render = .ok e.reread :=
  parseExpr_of_reads h.scan_render rfl ((h.rereads hw hn).argument false false)

end Tabular
