import DocSchema.Schema.Basic

/-!
# DocSchema.Schema.Builtin

The schema that is declared when no file gives another one: accounts, their usage, and the
customers and subscriptions of the payment provider.
-/

namespace DocSchema.Schema

def users : CollectionName := ⟨"users", by decide⟩
def usage : CollectionName := ⟨"usage", by decide⟩
def customer : CollectionName := ⟨"customer", by decide⟩
def subscription : CollectionName := ⟨"subscription", by decide⟩

def email : FieldName := ⟨"email", by decide⟩
def phoneNumber : FieldName := ⟨"phone_number", by decide⟩
def userId : FieldName := ⟨"user_id", by decide⟩
def customerId : FieldName := ⟨"customer_id", by decide⟩
def subscriptionId : FieldName := ⟨"subscription_id", by decide⟩

/-- The built-in unique indexes, in the order of their creation. -/
def builtinFields : List (CollectionName × FieldName) :=
  [(users, email), (users, phoneNumber), (usage, userId), (customer, customerId),
   (subscription, subscriptionId)]

/-- The built-in schema, where every unique index is restricted to active documents. -/
def builtin (convention : SoftDelete) : Schema where
  database := "autosrt"
  collections := [users, usage, customer, subscription]
  indexes := builtinFields.map fun (collection, field) =>
    { collection, field, unique := true, activeOnly := some convention }

end DocSchema.Schema
