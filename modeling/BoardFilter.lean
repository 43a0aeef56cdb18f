import BoardFilter.Main
import BoardFilter.Proofs.Session.Coherence
import BoardFilter.Proofs.Session.Connection
import BoardFilter.Proofs.Session.Restarts
import BoardFilter.Proofs.Site.Await
import BoardFilter.Post.Record
import BoardFilter.Proofs.Line.Meaning
import BoardFilter.Proofs.Blacklist.Keys
import BoardFilter.Proofs.Clause.Exempting
import BoardFilter.Proofs.Session.Exempt
import BoardFilter.Proofs.Session.Failures
import BoardFilter.Proofs.Site.Replies
import BoardFilter.Proofs.Site.FavoritePages
import BoardFilter.Proofs.Session.Searches
import BoardFilter.Proofs.Session.SyncedFavorites
import BoardFilter.Proofs.Blacklist.Batches
import BoardFilter.Proofs.Session.Ingest
import BoardFilter.Proofs.Clause.Patterns
import BoardFilter.Proofs.Clause.WholeNumbers
import BoardFilter.Proofs.Post.TagCategories
import BoardFilter.Proofs.Clause.Sizes
import BoardFilter.Proofs.Line.UploaderNames
import BoardFilter.Proofs.Clause.Unanswered
import BoardFilter.Proofs.Blacklist.Lookups
import BoardFilter.Proofs.Session.Seeding
import BoardFilter.Proofs.Settings.Reopening
import BoardFilter.Proofs.Session.Login
import BoardFilter.Proofs.Session.SavedAnswers
import BoardFilter.Proofs.Post.StoredForm
import BoardFilter.Proofs.Site.SearchUrls
import BoardFilter.Proofs.Site.Answers
import BoardFilter.Proofs.Clause.WellFormed
