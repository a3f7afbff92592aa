import OAuthClient.Assoc

/-!
# Token caches

What is kept under the keys of application registrations. The laws say that a key holds what was
last stored under it, and nothing once it is evicted.
-/

namespace OAuthClient

/-- Values under keys. -/
structure TokenCache (α : Type) where
  /-- The keys with their values. -/
  entries : List (String × α) := []

namespace TokenCache

variable {α : Type}

/-- The value under a key. -/
def get? (cache : TokenCache α) (key : String) : Option α := Assoc.get? key cache.entries

/-- Whether there is a value under a key. -/
def contains (cache : TokenCache α) (key : String) : Bool := (cache.get? key).isSome

/-- The number of keys. -/
def size (cache : TokenCache α) : Nat := cache.entries.length

/-- The cache with a value stored under a key. -/
def store (cache : TokenCache α) (key : String) (value : α) : TokenCache α :=
  ⟨Assoc.put key value cache.entries⟩

/-- The cache without a key. -/
def evict (cache : TokenCache α) (key : String) : TokenCache α := ⟨Assoc.erase key cache.entries⟩

@[simp] theorem get?_empty (key : String) : ({} : TokenCache α).get? key = none := rfl

@[simp] theorem get?_store_self (cache : TokenCache α) (key : String) (value : α) :
    (cache.store key value).get? key = some value := Assoc.get?_put_self key value cache.entries

theorem get?_store_of_ne (cache : TokenCache α) {key other : String} (value : α)
    (hne : other ≠ key) : (cache.store key value).get? other = cache.get? other :=
  Assoc.get?_put_of_ne hne value cache.entries

@[simp] theorem get?_evict_self (cache : TokenCache α) (key : String) :
    (cache.evict key).get? key = none := Assoc.get?_erase_self key cache.entries

theorem get?_evict_of_ne (cache : TokenCache α) {key other : String} (hne : other ≠ key) :
    (cache.evict key).get? other = cache.get? other := Assoc.get?_erase_of_ne hne cache.entries

end TokenCache

end OAuthClient
