import SalesDesk.Proofs.Catalogue
import SalesDesk.Proofs.Desk.Answering
import SalesDesk.Proofs.Except
import SalesDesk.Proofs.Json.Reading

/-!
# Loading products

Products that are sent are read as what was sent, and loading them puts the catalogue that they make
in the place of the one before. Whoever asks for the products afterwards gets the same listing as
whoever has sent them.
-/

namespace SalesDesk

namespace Validation

namespace Rule

variable {α : Type} {rule : Rule α} {write : α → Json}

/-- Items that are read one by one as what was written are read so as a list. -/
theorem items_map (h : ∀ a, rule (write a) = .valid a) (index : Nat) (as : List α) :
    items rule index (as.map write) = .valid as := by
  induction as generalizing index with
  | nil => rfl
  | cons a as ih =>
    rw [List.map_cons, items, h, ih]
    rfl

theorem list_map (h : ∀ a, rule (write a) = .valid a) (as : List α) :
    list rule (.arr (as.map write)) = .valid as :=
  items_map h 0 as

end Rule

section Fields

variable {α : Type} {members : Table Json} {name : String} {rule : Rule α} {v : Json} {a default : α}

theorem field_of_find? (hfind : members.find? name = some v) (hrule : rule v = .valid a) :
    field members name rule = .valid a := by
  simp only [field, hfind, hrule, Checked.under]

theorem fieldOr_of_find? (hfind : members.find? name = some v) (hrule : rule v = .valid a) :
    fieldOr members name rule default = .valid a := by
  simp only [fieldOr, hfind, hrule, Checked.under]

end Fields

end Validation

namespace Http

open Validation

/-! ## Forms of products -/

theorem Form.objection_objectionJson (o : Objection) :
    Form.objection (Product.objectionJson o) = .valid o :=
  rfl

theorem Form.media_mediaJson (m : MediaItem) : Form.media (Product.mediaJson m) = .valid m := rfl

/-- A product with its price in full is read as it was written. -/
theorem Form.product_toJson (p : Product) : Form.product (p.toJson .float) = .valid p := by
  have htext (s : String) : Rule.text (.str s) = .valid s := rfl
  have hnumber (x : Binary64) : Rule.number (.float x) = .valid x := rfl
  have hkeywords := Rule.list_map htext p.keywords
  have hobjections := Rule.list_map Form.objection_objectionJson p.objections
  have hmedia := Rule.list_map Form.media_mediaJson p.media
  obtain ⟨m, hm⟩ : ∃ m, p.toJson .float = .obj m := ⟨_, rfl⟩
  have hread : Form.text m "id" = .valid p.id ∧ Form.text m "name" = .valid p.name ∧
      Form.textOr m "short_description" "" = .valid p.shortDescription ∧
      Form.textOr m "long_description" "" = .valid p.longDescription ∧
      fieldOr m "price" Rule.number .zero = .valid p.price ∧
      fieldOr m "keywords" (Rule.list Rule.text) [] = .valid p.keywords ∧
      fieldOr m "objections" (Rule.list Form.objection) [] = .valid p.objections ∧
      fieldOr m "media" (Rule.list Form.media) [] = .valid p.media := by
    cases hm
    exact ⟨field_of_find? rfl (htext _), field_of_find? rfl (htext _),
      fieldOr_of_find? rfl (htext _), fieldOr_of_find? rfl (htext _),
      fieldOr_of_find? rfl (hnumber _), fieldOr_of_find? rfl hkeywords,
      fieldOr_of_find? rfl hobjections, fieldOr_of_find? rfl hmedia⟩
  obtain ⟨hid, hname, hshort, hlong, hprice, hkeywords, hobjections, hmedia⟩ := hread
  rw [hm, Form.product, Rule.object, hid, hname, hshort, hlong, hprice, hkeywords, hobjections,
    hmedia]
  rfl

/-- The products in the form in which they are sent. -/
def sentJson (products : List Product) : Json := .arr (products.map (Product.toJson .float))

section Written

open Json

variable {α : Type} {write : α → Json} {digits depth : Nat}

theorem distinct_arr_map (h : ∀ a, (write a).Distinct) (as : List α) :
    (Json.arr (as.map write)).Distinct :=
  .arr fun _ hv => by
    obtain ⟨a, -, rfl⟩ := List.mem_map.mp hv
    exact h a

theorem within_arr_map (h : ∀ a, (write a).Within digits depth) (as : List α) :
    (Json.arr (as.map write)).Within digits (depth + 1) :=
  .arr fun _ hv => by
    obtain ⟨a, -, rfl⟩ := List.mem_map.mp hv
    exact h a

theorem distinct_sentJson (products : List Product) : (sentJson products).Distinct := by
  have hobjection (o : Objection) : (Product.objectionJson o).Distinct := by
    refine .obj (show ["trigger", "answer"].Nodup by decide) ?_
    simp only [List.forall_mem_cons]
    exact ⟨.str _, .str _, nofun⟩
  have hmedia (m : MediaItem) : (Product.mediaJson m).Distinct := by
    refine .obj (show ["id", "media_type", "url"].Nodup by decide) ?_
    simp only [List.forall_mem_cons]
    exact ⟨.str _, .str _, .str _, nofun⟩
  have hproduct (p : Product) : (p.toJson .float).Distinct := by
    refine .obj (show ["id", "name", "short_description", "long_description", "price", "keywords",
      "objections", "media"].Nodup by decide) ?_
    simp only [List.forall_mem_cons]
    exact ⟨.str _, .str _, .str _, .str _, .float _, distinct_arr_map .str _,
      distinct_arr_map hobjection _, distinct_arr_map hmedia _, nofun⟩
  exact distinct_arr_map hproduct products

theorem within_sentJson (products : List Product) : (sentJson products).Within maxDigits 4 := by
  have hobjection (o : Objection) : (Product.objectionJson o).Within maxDigits 1 := by
    refine .obj ?_
    simp only [List.forall_mem_cons]
    exact ⟨.str _, .str _, nofun⟩
  have hmedia (m : MediaItem) : (Product.mediaJson m).Within maxDigits 1 := by
    refine .obj ?_
    simp only [List.forall_mem_cons]
    exact ⟨.str _, .str _, .str _, nofun⟩
  have hproduct (p : Product) : (p.toJson .float).Within maxDigits 3 := by
    refine .obj ?_
    simp only [List.forall_mem_cons]
    exact ⟨.str _, .str _, .str _, .str _, .float _, within_arr_map .str _,
      within_arr_map hobjection _, within_arr_map hmedia _, nofun⟩
  exact within_arr_map hproduct products

/-- A text that begins with two characters of ASCII, none of which is zero, is in UTF-8. -/
theorem reread?_ascii {c c' : Char} (hc : Text.Utf8.encodeChar c = [c.toNat])
    (hc' : Text.Utf8.encodeChar c' = [c'.toNat]) (hne : c.toNat ≠ 0) (hne' : c'.toNat ≠ 0)
    (rest : List Char) : Text.reread? (c :: c' :: rest) = some (c :: c' :: rest) := by
  have hbytes (bytes : List Nat) :
      Text.Encoding.ofBytes (c.toNat :: c'.toNat :: bytes) = .utf8 := by
    rcases bytes with _ | ⟨a, _ | ⟨b, bytes⟩⟩
    · simp only [Text.Encoding.ofBytes, if_neg hne, if_neg hne']
    · rfl
    · simp only [Text.Encoding.ofBytes, if_neg hne, if_neg hne']
  have hencode : Text.Utf8.encode ((c :: c' :: rest).take 4) =
      c.toNat :: c'.toNat :: Text.Utf8.encode (rest.take 2) := by
    simp [Text.Utf8.encode, hc, hc']
  rw [Text.reread?, hencode, hbytes]

theorem bodyText?_sentJson (products : List Product) :
    bodyText? (chars (sentJson products)) = some (chars (sentJson products)) := by
  have hbegin : ∃ c rest, chars (sentJson products) = '[' :: c :: rest ∧
      (c = ']' ∨ c = '\x7b') := by
    cases products with
    | nil => exact ⟨']', [], rfl, .inl rfl⟩
    | cons p products =>
      obtain ⟨more, hitems⟩ := exists_itemChars_cons (p.toJson .float)
        (products.map (Product.toJson .float))
      obtain ⟨front, hfront⟩ : ∃ front, chars (p.toJson .float) = '\x7b' :: front := ⟨_, rfl⟩
      refine ⟨'\x7b', front ++ more ++ [']'], ?_, .inr rfl⟩
      rw [sentJson, List.map_cons, chars, hitems, hfront]
      rfl
  obtain ⟨c, rest, hchars, hc⟩ := hbegin
  have hmark : bodyText? ('[' :: c :: rest) = Text.reread? ('[' :: c :: rest) := by
    unfold bodyText?
    split
    · rename_i hmark
      exact absurd (List.cons.inj hmark).1 (by decide)
    · rfl
  rw [hchars, hmark]
  rcases hc with rfl | rfl <;> exact reread?_ascii rfl rfl (by decide) (by decide) _

/-- Products that are sent on one line are read as they are. -/
theorem readBody_sentJson (products : List Product) :
    readBody (some (sentJson products).line) (Rule.list Form.product) = .ok products := by
  have hread : readBounded (chars (sentJson products)) = .ok (sentJson products) :=
    readWithin_chars (distinct_sentJson products)
      ((within_sentJson products).mono le_rfl (by decide))
  have hform : Rule.list Form.product (sentJson products) = .valid products :=
    Rule.list_map Form.product_toJson products
  have hline : (sentJson products).line.toList = chars (sentJson products) := String.toList_ofList
  have hne : (sentJson products).line ≠ "" := by
    intro h
    rw [h] at hline
    exact List.cons_ne_nil _ _ hline.symm
  unfold readBody
  dsimp only [Option.getD_some]
  split
  · contradiction
  · rw [hline, bodyText?_sentJson]
    dsimp only [Option.map_some]
    rw [hread]
    dsimp only
    rw [hform]
    rfl

end Written

/-! ## Requests for products -/

/-- The request that puts products in the place of all that there are. -/
def Request.puts (products : List Product) : Request :=
  { method := "PUT", target := "/api/v1/products", content := some (sentJson products).line }

theorem read_products : Target.read "/api/v1/products" =
    { segments := ["api", "v1", "products"], query := [] } := by
  decide +kernel

theorem ofRequest_puts (products : List Product) :
    Call.ofRequest (.puts products) = .ok (.loadProducts products) := by
  have hverb : (Request.puts products).verb = "PUT" :=
    show Text.capitals "PUT" = "PUT" by decide +kernel
  have hfind : Endpoint.find (Request.puts products).verb ["api", "v1", "products"] =
      .ok .loadProducts := by
    rw [hverb]
    decide
  refine (ofRequest_of_find (r := .puts products) read_products hfind).trans ?_
  change (readBody (some (sentJson products).line) (Rule.list Form.product)).bind _ = _
  rw [readBody_sentJson]
  rfl

/-- The request for all products. -/
def Request.products : Request := { method := "GET", target := "/api/v1/products" }

theorem ofRequest_products : Call.ofRequest .products = .ok .products := by
  have hverb : Request.products.verb = "GET" :=
    show Text.capitals "GET" = "GET" by decide +kernel
  have hfind : Endpoint.find Request.products.verb ["api", "v1", "products"] = .ok .products := by
    rw [hverb]
    decide
  exact ofRequest_of_find (r := .products) read_products hfind

/-! ## Loading -/

theorem run_answerLoad (products : List Product) (d : Desk) : (answerLoad products).run d =
    (.ok (productsAnswer (Catalogue.load products).values),
      { d with catalogue := Catalogue.load products }) :=
  rfl

theorem run_answerProduct (id : String) (d : Desk) : (answerProduct id).run d =
    (.ok (((d.catalogue.product? (some id)).map fun p => .ok (productJson p)).getD
      (.error 404 "Product not found")), d) := by
  have hproduct : d.catalogue.product? (some id) = d.catalogue.find? id := rfl
  rw [answerProduct, Act.run_bind_ok (Act.run_look (fun d => d.catalogue.find? id) d), hproduct]
  cases d.catalogue.find? id <;> rfl

theorem productJson_of_finite {p : Product} {negative : Bool} {x : Binary64.Magnitude}
    (h : p.price = .finite negative x) : productJson p = p.toJson .float := by
  simp only [productJson, Product.toJson, h, Json.strictNumber]

theorem productJson_of_not_finite {p : Product} (h : ∀ negative x, p.price ≠ .finite negative x) :
    productJson p = p.toJson fun _ => .null := by
  have hnull : Json.strictNumber p.price = .null := by
    cases hprice : p.price with
    | finite negative x => exact absurd hprice (h negative x)
    | infinite negative => rfl
    | nan => rfl
  simp only [productJson, Product.toJson, hnull]

/-- Loading products puts what they make in the place of the catalogue before, whatever that was, and
answers the listing that is answered to whoever asks afterwards. Of each id the last product is
listed, at the place of the first, with all fields as they were sent; only a price that is not a
finite number is listed as null. -/
theorem serve_loadProducts (errands : Desk.Errands) (d : Desk) (products : List Product) :
    let c := Catalogue.load products
    let after := { d with catalogue := c }
    c.Holds products ∧
    Call.ofRequest (.puts products) = .ok (.loadProducts products) ∧
    (∀ put, Call.ofRequest put = .ok (.loadProducts products) →
      (serve errands put).run d = (.ok (.body 200 (.arr (c.values.map productJson))), after)) ∧
    (∀ get, Call.ofRequest get = .ok .products →
      (serve errands get).run after = (.ok (.body 200 (.arr (c.values.map productJson))), after)) ∧
    (∀ get id, Call.ofRequest get = .ok (.product id) → (serve errands get).run after =
      (.ok (match products.reverse.find? fun p => p.id = id with
        | some p => .body 200 (productJson p)
        | none => .error 404 "Product not found"), after)) ∧
    (∀ (p : Product) negative x, p.price = .finite negative x →
      productJson p = p.toJson .float ∧ Form.product (productJson p) = .valid p) ∧
    ∀ p : Product, (∀ negative x, p.price ≠ .finite negative x) →
      productJson p = p.toJson fun _ => .null := by
  intro c after
  have hholds := Catalogue.holds_load products
  refine ⟨hholds, ofRequest_puts products, fun put hput => ?_, fun get hget => ?_,
    fun get id hget => ?_, fun p negative x hprice => ?_, fun _ => productJson_of_not_finite⟩
  · rw [run_serve_of_call hput]
    exact run_answerLoad products d
  · rw [run_serve_of_call hget]
    rfl
  · rw [run_serve_of_call hget, answer, run_answerProduct, hholds.last id]
    cases products.reverse.find? fun p => p.id = id <;> rfl
  · rw [productJson_of_finite hprice]
    exact ⟨rfl, Form.product_toJson p⟩

/-- An id is sent twice, with another one between, and a product without an id after it. -/
theorem serve_loadProducts_twice :
    let first : Product := { id := "a", name := "Old", keywords := ["soap"] }
    let other : Product := { id := "b", name := "Other" }
    let last : Product :=
      { id := "a", name := "New", price := .ofDecimal false 299 (-1), keywords := ["gel", "aloe"]
        objections := [⟨"too dear", "lasts long"⟩, ⟨"\"?\"", "\n"⟩], media := [⟨"m", "image", "u"⟩] }
    let unnamed : Product := { id := "", name := "None" }
    let products := [first, other, last, unnamed]
    let gone : Request := { method := "GET", target := "/api/v1/products/gone" }
    let d : Desk := { (default : Desk) with
      catalogue := Catalogue.load [{ id := "gone", name := "Gone" }] }
    let after := { d with catalogue := Catalogue.load products }
    let listing := Answer.body 200 (.arr [productJson last, productJson other, productJson unnamed])
    (serve Desk.quiet (.puts products)).run d = (.ok listing, after) ∧
      (serve Desk.quiet .products).run after = (.ok listing, after) ∧
      Call.ofRequest gone = .ok (.product "gone") ∧
      (serve Desk.quiet gone).run after = (.ok (.error 404 "Product not found"), after) ∧
      after.catalogue.product? (some "a") = some last ∧
      after.catalogue.isValid (some "") = false ∧ Form.product (productJson last) = .valid last := by
  intro first other last unnamed products gone d after listing
  obtain ⟨hholds, hsent, hput, hall, hone, hfinite, -⟩ :=
    serve_loadProducts Desk.quiet d products
  have hgone : Call.ofRequest gone = .ok (.product "gone") := by decide +kernel
  exact ⟨hput _ hsent, hall _ ofRequest_products, hgone, hone _ _ hgone, hholds.last "a", rfl,
    (hfinite last _ _ rfl).2⟩

/-- A price that is written with a power beyond all finite numbers is not listed as it was sent. -/
theorem serve_loadProducts_overflow :
    let put : Request :=
      { method := "PUT", target := "/api/v1/products"
        content := some "[\x7b\"id\": \"a\", \"name\": \"n\", \"price\": 1e999\x7d]" }
    let sent : Product := { id := "a", name := "n", price := .infinite false }
    Call.ofRequest put = .ok (.loadProducts [sent]) ∧
      (serve Desk.quiet put).run default = (.ok (.body 200 (.arr [sent.toJson fun _ => .null])),
        { (default : Desk) with catalogue := [("a", sent)] }) ∧
      sent.toJson (fun _ => .null) ≠ sent.toJson .float := by
  intro put sent
  have hput : Call.ofRequest put = .ok (.loadProducts [sent]) := by decide +kernel
  refine ⟨hput, ?_, ?_⟩
  · rw [run_serve_of_call hput]
    rfl
  · intro h
    have hprice := congrArg (Json.get? "price") h
    exact absurd (Option.some.inj hprice) nofun

end Http

end SalesDesk
