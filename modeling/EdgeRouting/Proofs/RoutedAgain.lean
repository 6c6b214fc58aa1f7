import EdgeRouting.Proofs.RuleAcceptance

/-!
# Routing a routed path again

A routed path can be cut along the destination that gave it, since what stands for a parameter came
from a parameter and what stands for a wildcard from a wildcard. A rule whose destination is its own
source puts every piece back where it was, whichever cut it has found. So a destination that can
stand as a source takes each path that it gives to itself.
-/

namespace EdgeRouting

namespace Pattern

variable {tokens : List Token} {path : List Char} {pieces : List (List Char)}

/-- A destination filled with pieces of the right kinds can be cut along its own tokens. -/
theorem exists_cuts_of_fill? {table : List (List Char × List Char)} {free : List (List Char)}
    {result : List Char}
    (htable : ∀ name piece, table.lookup name = some piece → piece ≠ [] ∧ '/' ∉ piece)
    (hfree : ∀ piece ∈ free, '\n' ∉ piece) (h : fill? table free tokens = some result) :
    ∃ pieces, Cuts tokens result pieces := by
  induction tokens generalizing free result with
  | nil =>
    rw [fill?] at h
    cases h
    exact ⟨[], rfl, .nil⟩
  | cons token tokens ih =>
    cases token with
    | literal text =>
      rw [fill?] at h
      obtain ⟨rest, hrest, rfl⟩ := Option.map_eq_some_iff.1 h
      obtain ⟨pieces, rfl, hpieces⟩ := ih hfree hrest
      exact ⟨text :: pieces, rfl, .cons rfl hpieces⟩
    | parameter name =>
      rw [fill?] at h
      obtain ⟨piece, hpiece, h⟩ := Option.bind_eq_some_iff.1 h
      obtain ⟨rest, hrest, h⟩ := Option.bind_eq_some_iff.1 h
      cases h
      obtain ⟨pieces, rfl, hpieces⟩ := ih hfree hrest
      exact ⟨piece :: pieces, rfl, .cons (htable name piece hpiece) hpieces⟩
    | wildcard =>
      cases free with
      | nil =>
        rw [fill?] at h
        cases h
      | cons piece free =>
        rw [fill?] at h
        obtain ⟨rest, hrest, rfl⟩ := Option.map_eq_some_iff.1 h
        obtain ⟨pieces, rfl, hpieces⟩ :=
          ih (fun other hother => hfree other (List.mem_cons_of_mem _ hother)) hrest
        exact ⟨piece :: pieces, rfl, .cons (hfree piece List.mem_cons_self) hpieces⟩

theorem map_fst_named (hlength : tokens.length = pieces.length) :
    (named tokens pieces).map Prod.fst = tokens.filterMap Token.name? := by
  induction tokens generalizing pieces with
  | nil => rfl
  | cons token tokens ih =>
    obtain ⟨piece, pieces, rfl⟩ := List.exists_cons_of_length_eq_add_one hlength.symm
    have hlength' : tokens.length = pieces.length := by simpa using hlength
    cases token with
    | literal text => exact ih hlength'
    | parameter name => exact congrArg (name :: ·) (ih hlength')
    | wildcard => exact ih hlength'

theorem lookup_of_mem_named {table : List (List Char × List Char)}
    (hnames : (table.map Prod.fst).Nodup) {name piece : List Char} (hmem : (name, piece) ∈ table) :
    table.lookup name = some piece := by
  obtain ⟨before, after, rfl⟩ := List.append_of_mem hmem
  refine List.lookup_eq_some_iff.2 ⟨before, after, rfl, fun entry hentry => ?_⟩
  rw [List.map_append, List.map_cons] at hnames
  rw [bne_iff_ne]
  rintro rfl
  exact (List.nodup_append.1 hnames).2.2 entry.1 (List.mem_map_of_mem hentry) entry.1
    List.mem_cons_self rfl

theorem fill?_self {table : List (List Char × List Char)} (hlength : tokens.length = pieces.length)
    (hliteral : ∀ text piece, (.literal text, piece) ∈ tokens.zip pieces → piece = text)
    (htable : ∀ name piece, (name, piece) ∈ named tokens pieces → table.lookup name = some piece) :
    fill? table (wild tokens pieces) tokens = some pieces.flatten := by
  induction tokens generalizing pieces with
  | nil =>
    cases List.length_eq_zero_iff.1 hlength.symm
    rfl
  | cons token tokens ih =>
    obtain ⟨piece, pieces, rfl⟩ := List.exists_cons_of_length_eq_add_one hlength.symm
    have hlength' : tokens.length = pieces.length := by simpa using hlength
    have hliteral' : ∀ text piece, (.literal text, piece) ∈ tokens.zip pieces → piece = text :=
      fun text piece hmem => hliteral text piece (List.mem_cons_of_mem _ hmem)
    cases token with
    | literal text =>
      have hpiece : piece = text := hliteral text piece List.mem_cons_self
      have hwild : wild (.literal text :: tokens) (piece :: pieces) = wild tokens pieces := rfl
      rw [fill?, hwild, ih hlength' hliteral' htable, hpiece]
      rfl
    | parameter name =>
      have hwild : wild (.parameter name :: tokens) (piece :: pieces) = wild tokens pieces := rfl
      have hpiece : table.lookup name = some piece := htable name piece List.mem_cons_self
      have htable' : ∀ name piece, (name, piece) ∈ named tokens pieces →
          table.lookup name = some piece :=
        fun name piece hmem => htable name piece (List.mem_cons_of_mem _ hmem)
      rw [fill?, hwild, ih hlength' hliteral' htable', hpiece]
      rfl
    | wildcard =>
      have hwild : wild (.wildcard :: tokens) (piece :: pieces) = piece :: wild tokens pieces := rfl
      rw [hwild, fill?, ih hlength' hliteral' htable]
      rfl

/-- Where the names are distinct, every cut fills the tokens with the path that was cut. -/
theorem Cuts.fill?_self (h : Cuts tokens path pieces)
    (hnames : (tokens.filterMap Token.name?).Nodup) :
    fill? (named tokens pieces) (wild tokens pieces) tokens = some path := by
  have hlength := h.2.length_eq
  rw [← map_fst_named hlength] at hnames
  rw [← h.1]
  exact Pattern.fill?_self hlength (fun text piece hmem => List.forall₂_zip h.2 hmem)
    fun name piece => lookup_of_mem_named hnames

end Pattern

namespace Rule

open Pattern (IsSource ColonsNamed)

variable {source destination : String} {rule : Rule}

theorem Passed.exists_cuts_of_route? (h : Passed source destination rule) {path result : String}
    (hroute : rule.route? path = some result) :
    ∃ pieces, Pattern.Cuts (Pattern.scan destination.toList) result.toList pieces := by
  obtain ⟨pieces, ⟨hpieces, -⟩, hfill⟩ := (h.route?_eq_some_iff path result).1 hroute
  exact Pattern.exists_cuts_of_fill?
    (fun name piece hpiece => List.forall₂_zip hpieces.2 (Pattern.mem_zip_of_lookup_named hpiece))
    (fun piece hpiece => List.forall₂_zip hpieces.2 (Pattern.mem_zip_of_mem_wild hpiece)) hfill

/-- A rule with the same text on both sides gives each path that it matches as it came. -/
theorem Passed.route?_self (h : Passed source source rule) (path : String) :
    rule.route? path = if rule.isMatch path then some path else none := by
  have hnames : ((Pattern.scan source.toList).filterMap Pattern.Token.name?).Nodup :=
    (Pattern.firstRepeated?_eq_none_iff.1 h.namesDistinct).1
  rw [← route?_isSome]
  cases hroute : rule.route? path with
  | none => rfl
  | some result =>
    obtain ⟨pieces, ⟨hpieces, -⟩, hfill⟩ := (h.route?_eq_some_iff path result).1 hroute
    rw [hpieces.fill?_self hnames, Option.some.injEq, String.toList_inj] at hfill
    rw [hfill]
    rfl

theorem acceptable_self (h : IsSource source.toList) : Acceptable source source :=
  ⟨h, h.isPath, le_rfl, fun _ hname => hname⟩

/-- A source that is not too large, taken as its own destination, is a rule that changes no path. -/
theorem exists_identity (h : IsSource source.toList)
    (hsize : Expression.weight (Pattern.expression source.toList) ≤ Expression.sizeLimit) :
    ∃ rule, compile source source = .ok rule ∧
      ∀ path, rule.route? path = if rule.isMatch path then some path else none := by
  obtain ⟨rule, hrule⟩ := exists_compile_iff.2 ⟨acceptable_self h, hsize⟩
  exact ⟨rule, hrule, (compile_eq_ok_iff.1 hrule).route?_self⟩

/-- What a rule gives can be cut along its destination, and the destination, where it can stand as a
source, is the source of a rule that gives it again. A rule from a source to itself gives exactly
the paths that it matches. -/
theorem outputs_routed_to_themselves :
    (∀ {source destination : String} {rule : Rule}, compile source destination = .ok rule →
      (∀ path result, rule.route? path = some result →
        ∃ pieces, Pattern.Cuts (Pattern.scan destination.toList) result.toList pieces) ∧
      (ColonsNamed destination.toList → (Pattern.names destination.toList).Nodup →
        Expression.weight (Pattern.expression destination.toList) ≤ Expression.sizeLimit →
          ∃ again, compile destination destination = .ok again ∧
            ∀ path result, rule.route? path = some result → again.route? result = some result)) ∧
    ∀ source : String, IsSource source.toList →
      Expression.weight (Pattern.expression source.toList) ≤ Expression.sizeLimit →
        ∃ rule, compile source source = .ok rule ∧
          ∀ path, rule.route? path = if rule.isMatch path then some path else none := by
  refine ⟨fun {source destination rule} hrule => ?_, fun source => exists_identity⟩
  have hpassed := compile_eq_ok_iff.1 hrule
  refine ⟨fun path result => hpassed.exists_cuts_of_route?, fun hcolons hnames hsize => ?_⟩
  obtain ⟨again, hagain, hidentity⟩ :=
    exists_identity ⟨hpassed.destinationIsPath, hcolons, hnames⟩ hsize
  refine ⟨again, hagain, fun path result hroute => ?_⟩
  have hmatch : again.isMatch result = true :=
    ((compile_eq_ok_iff.1 hagain).isMatch_iff result).2 (hpassed.exists_cuts_of_route? hroute)
  rw [hidentity, if_pos hmatch]

/-- The output is cut differently from the pieces it was made of, and yet comes out the same. -/
theorem output_cut_differently : ∃ rule again,
    compile "/:a/*/*" "/*-:a-*" = .ok rule ∧ compile "/*-:a-*" "/*-:a-*" = .ok again ∧
    Expression.captures? rule.expression "/k/x/y-z-w".toList =
      some ["k".toList, "x".toList, "y-z-w".toList] ∧
    rule.route? "/k/x/y-z-w" = some "/x-k-y-z-w" ∧
    Expression.captures? again.expression "/x-k-y-z-w".toList =
      some ["x-k-y".toList, "z".toList, "w".toList] ∧
    again.route? "/x-k-y-z-w" = some "/x-k-y-z-w" ∧ again.route? "/x-k" = none := by
  let rule : Rule := {
    source := "/:a/*/*"
    destination := "/*-:a-*"
    expression := [.literal ['/'], .parameter, .literal ['/'], .wildcard, .literal ['/'], .wildcard]
    captureOrder := [.parameter "a", .wildcard 0, .wildcard 1]
    template := [.literal "/", .capture 1, .literal "-", .capture 0, .literal "-", .capture 2] }
  have hrule : compile "/:a/*/*" "/*-:a-*" = .ok rule := by decide +kernel
  have hroute : rule.route? "/k/x/y-z-w" = some "/x-k-y-z-w" := by decide +kernel
  have hcolons : ColonsNamed "/*-:a-*".toList := by decide +kernel
  have hnames : (Pattern.names "/*-:a-*".toList).Nodup := by decide +kernel
  have hsize : Expression.weight (Pattern.expression "/*-:a-*".toList) ≤ Expression.sizeLimit := by
    decide +kernel
  obtain ⟨again, hagain, hsame⟩ := (outputs_routed_to_themselves.1 hrule).2 hcolons hnames hsize
  obtain ⟨own, hown, hidentity⟩ :=
    outputs_routed_to_themselves.2 "/*-:a-*" (by decide +kernel) hsize
  cases hagain.symm.trans hown
  have hexpression := (compile_eq_ok_iff.1 hagain).expression_eq
  refine ⟨rule, again, hrule, hagain, by decide +kernel, hroute, ?_, hsame _ _ hroute, ?_⟩
  · rw [hexpression]
    decide +kernel
  · rw [hidentity, isMatch, hexpression]
    decide +kernel

end Rule

end EdgeRouting
