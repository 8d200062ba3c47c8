import EntitySearch.Proofs.Calendar.Order
import EntitySearch.Proofs.Calendar.Stamp
import EntitySearch.Proofs.Calendar.Timeline
import EntitySearch.Proofs.Calendar.Written
import EntitySearch.Proofs.Calendar.Zoned
import EntitySearch.Proofs.Decimal.Digits
import EntitySearch.Proofs.Filter.Decoding
import EntitySearch.Proofs.Filter.Given
import EntitySearch.Proofs.Filter.Integers
import EntitySearch.Proofs.Json.Grammar
import EntitySearch.Proofs.Json.Layout
import EntitySearch.Proofs.Json.Number
import EntitySearch.Proofs.Json.Rendering
import EntitySearch.Proofs.Paging.Decoding
import EntitySearch.Proofs.Paging.Header
import EntitySearch.Proofs.Paging.Metadata
import EntitySearch.Proofs.Paging.Oversampling
import EntitySearch.Proofs.Paging.RoundTrip
import EntitySearch.Proofs.Paging.SortLists
import EntitySearch.Proofs.Paging.Tiling
import EntitySearch.Proofs.Paging.Window
import EntitySearch.Proofs.Predicate.BlankFilter
import EntitySearch.Proofs.Predicate.DateSearch
import EntitySearch.Proofs.Predicate.DateTimeText
import EntitySearch.Proofs.Predicate.Declared
import EntitySearch.Proofs.Predicate.Dialects
import EntitySearch.Proofs.Predicate.Instants
import EntitySearch.Proofs.Predicate.IntegerFilters
import EntitySearch.Proofs.Predicate.Interval
import EntitySearch.Proofs.Predicate.ListMembership
import EntitySearch.Proofs.Predicate.LiteralMatch
import EntitySearch.Proofs.Predicate.Meaning
import EntitySearch.Proofs.Predicate.MemberKind
import EntitySearch.Proofs.Predicate.Outcome
import EntitySearch.Proofs.Predicate.Reads
import EntitySearch.Proofs.Predicate.Refusal
import EntitySearch.Proofs.Predicate.SearchDispatch
import EntitySearch.Proofs.Predicate.SearchText
import EntitySearch.Proofs.Predicate.Shape
import EntitySearch.Proofs.Predicate.TypedText
import EntitySearch.Proofs.Predicate.UuidFilters
import EntitySearch.Proofs.Schema.Resolution
import EntitySearch.Proofs.Search.ChildPages
import EntitySearch.Proofs.Search.Discipline
import EntitySearch.Proofs.Search.FlatPages
import EntitySearch.Proofs.Search.Plan
import EntitySearch.Proofs.Search.Session
import EntitySearch.Proofs.Search.ShortPages
import EntitySearch.Proofs.Search.SortKeys
import EntitySearch.Proofs.Sql.Erasure
import EntitySearch.Proofs.Sql.Formula
import EntitySearch.Proofs.Sql.Fragment
import EntitySearch.Proofs.Sql.Lexeme
import EntitySearch.Proofs.Sql.Reading
import EntitySearch.Proofs.Sql.Spelling
import EntitySearch.Proofs.Sql.Statement
import EntitySearch.Proofs.Sql.Truth
import EntitySearch.Proofs.Text.Like
import EntitySearch.Proofs.Text.Trim
import EntitySearch.Proofs.Uuid
import EntitySearch.Sample.Customer
import EntitySearch.Search.Pages
