import DocSearch.Main
import DocSearch.Proofs.Authority.PageRank
import DocSearch.Proofs.BoolQuery.Accounting
import DocSearch.Proofs.BoolQuery.Grouping
import DocSearch.Proofs.BoolQuery.NormalForm
import DocSearch.Proofs.BoolQuery.Placement
import DocSearch.Proofs.BoolQuery.Terms
import DocSearch.Proofs.BoolQuery.Universe
import DocSearch.Proofs.BoolQuery.Within
import DocSearch.Proofs.Corpus.LemmaSigns
import DocSearch.Proofs.Corpus.Listings
import DocSearch.Proofs.Corpus.TokenFrequencies
import DocSearch.Proofs.LinkGraph.Anchors
import DocSearch.Proofs.LinkGraph.Lines
import DocSearch.Proofs.LinkGraph.Reload
import DocSearch.Proofs.Ranking.Cosine
import DocSearch.Proofs.Ranking.FiniteScores
import DocSearch.Proofs.Ranking.Fusion
import DocSearch.Proofs.Ranking.Queries
import DocSearch.Proofs.Ranking.Ties
import DocSearch.Proofs.Ranking.Union
import DocSearch.Proofs.Session.Transcript
import DocSearch.Proofs.Snapshot.IndexGrammar
import DocSearch.Proofs.Snapshot.IndexReload
import DocSearch.Proofs.Snapshot.InputFailures
import DocSearch.Proofs.Snapshot.LemmaReload
import DocSearch.Proofs.Snapshot.LinkRun
import DocSearch.Proofs.Snapshot.Reindex
import DocSearch.Proofs.Snapshot.SpaceContent
import DocSearch.Proofs.Snapshot.UnseenIdf
import DocSearch.Proofs.Text.Tokens
import DocSearch.Proofs.Weights.Accumulation
import DocSearch.Proofs.Weights.Resave
